import ColorCalls.Notice

/-! A value behind a lock. A holder that fails leaves the lock poisoned; the value is then taken
over as it stands. -/

namespace ColorCalls

structure Guarded (α : Type) where
  value : α
  poisoned : Bool := false

namespace Guarded

variable {α : Type}

def recover (g : Guarded α) : α := g.value

def recoverNoting (g : Guarded α) (context : Text) : α × List Notice :=
  (g.value, if g.poisoned then [.lockRecovered context] else [])

end Guarded

end ColorCalls
