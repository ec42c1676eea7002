import ColorCalls.Log.Logger

/-! The logger of a whole process. The first one installed stays; the level above which records are
not even delivered belongs to the last one that asked. -/

namespace ColorCalls

structure LogFacade where
  installed : Option Logger := none
  maxLevel : LevelFilter := none

namespace LogFacade

inductive InstallError where
  | alreadyInstalled
  deriving DecidableEq, Repr

def InstallError.message : InstallError → Text
  | .alreadyInstalled =>
      "attempted to set a logger after the logging system was already initialized"

def install (facade : LogFacade) (logger : Logger) : LogFacade × Except InstallError Unit :=
  match facade.installed with
  | none => (⟨some logger, logger.filter⟩, .ok ())
  | some first => (⟨some first, logger.filter⟩, .error .alreadyInstalled)

def delivers (facade : LogFacade) (level : Level) : Bool :=
  facade.maxLevel.allows level && facade.installed.any fun logger => logger.enabled level

def levelName (filter : LevelFilter) : Text := (filter.map Level.name).getD "OFF"

end LogFacade

end ColorCalls
