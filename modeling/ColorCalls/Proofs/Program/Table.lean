import ColorCalls.Proofs.Listing
import ColorCalls.Proofs.Program.Files
import ColorCalls.Proofs.Program.Isolation
import ColorCalls.Proofs.Program.Rows

namespace ColorCalls

def Diagnostic.complaint? : Diagnostic → Option Text
  | .notice _ => none
  | .complaint t => some t

structure Session.Scans (session : Session) (invocation : Invocation) (given : List Text) :
    Prop where
  understood : Invocation.ofArguments session.arguments = .ok invocation
  noHelp : invocation.help = false
  command : invocation.command = some (.scan given)
  enabled : (session.settings invocation).enabled = true
  pattern : session.patternFault (session.settings invocation).callee = none

namespace Program

abbrev SourceReading := Text × Except FileError Text

def SourceReading.rows (locator : Locator) : SourceReading → List Listing.Row
  | (source, .ok t) => (locator.findAll t).found.map (Listing.Row.ofCall (label source))
  | (_, .error _) => []

def SourceReading.complaint? : SourceReading → Option Text
  | (_, .ok _) => none
  | (source, .error e) => some (source ++ ": " ++ e.message)

/-- What the rows and the diagnostics of a listing are after some readings. -/
structure Lists (locator : Locator) (before : Listed) (l : List SourceReading) (after : Listed) :
    Prop where
  rows : after.rows = before.rows ++ l.flatMap (SourceReading.rows locator)
  failed : after.failed = (before.failed || l.any fun reading => reading.complaint?.isSome)
  complaints : after.diagnostics.filterMap Diagnostic.complaint? =
    before.diagnostics.filterMap Diagnostic.complaint? ++ l.filterMap SourceReading.complaint?

variable {files : FileStore} {locator : Locator}

theorem Lists.trans {a b c : Listed} {l l' : List SourceReading} (hab : Lists locator a l b)
    (hbc : Lists locator b l' c) : Lists locator a (l ++ l') c where
  rows := by rw [hbc.rows, hab.rows, List.flatMap_append, List.append_assoc]
  failed := by rw [hbc.failed, hab.failed, List.any_append, Bool.or_assoc]
  complaints := by
    rw [hbc.complaints, hab.complaints, List.filterMap_append, List.append_assoc]

variable {session : Session} {invocation : Invocation} {given : List Text}

end Program

end ColorCalls
