import ColorCalls.Call
import ColorCalls.Codec

/-! Color calls in a text: the calls whose arguments the codec can read, each with the place where
it stands. Places belong to the text that was scanned; after an edit the text is scanned again. -/

namespace ColorCalls

/-- A stretch of a text: half open in bytes, and with both of its end positions. -/
structure Span where
  start : Nat
  stop : Nat
  startPosition : Position
  stopPosition : Position
  deriving DecidableEq, Repr

namespace Span

def size (s : Span) : Nat := s.stop - s.start

def isEmpty (s : Span) : Bool := s.start == s.stop

def containsOffset (s : Span) (offset : Nat) : Bool := s.start ≤ offset && offset < s.stop

/-- Whether a cursor touches the stretch. A cursor right after its end still does. -/
def contains (s : Span) (p : Position) : Bool := s.startPosition ≤ p && p ≤ s.stopPosition

end Span

structure ColorCall where
  span : Span
  color : Color
  text : Text
  deriving DecidableEq, Repr

structure Locator where
  codec : Codec := {}
  unit : ColumnUnit := .utf16

namespace Locator

structure Scan where
  found : List ColorCall
  locator : Locator
  notices : List Notice

def colorCall (unit : ColumnUnit) (t : Text) (call : Call) (color : Color) : ColorCall where
  span :=
    { start := call.start
      stop := call.stop
      startPosition := .ofOffset unit t call.start
      stopPosition := .ofOffset unit t call.stop }
  color := color
  text := call.text

def remembering (locator : Locator) (parsed : Codec.Parsed) : Locator :=
  { locator with codec := parsed.codec }

def readCalls (locator : Locator) (t : Text) : List Call → Scan
  | [] => ⟨[], locator, []⟩
  | call :: calls =>
      let parsed := locator.codec.parse call.arguments
      let scan := readCalls (locator.remembering parsed) t calls
      match parsed.result with
      | .ok color =>
          { scan with
            found := colorCall locator.unit t call color :: scan.found
            notices := parsed.notices ++ scan.notices }
      | .error rejection =>
          { scan with
            notices :=
              parsed.notices ++ .callSkipped call.text call.start rejection :: scan.notices }

def findAll (locator : Locator) (t : Text) : Scan :=
  let scan := locator.readCalls t (Call.list locator.codec.callee t)
  { scan with
    notices := scan.notices ++
      [.scanned scan.found.length locator.codec.callee (Text.lineCount t)] }

/-- Reads calls until `limit` colors are found; the calls behind the last one stay unread. -/
def readCallsUpTo (locator : Locator) (t : Text) : Nat → List Call → Scan
  | 0, _ => ⟨[], locator, []⟩
  | _ + 1, [] => ⟨[], locator, []⟩
  | limit + 1, call :: calls =>
      let parsed := locator.codec.parse call.arguments
      match parsed.result with
      | .ok color =>
          let scan := readCallsUpTo (locator.remembering parsed) t limit calls
          { scan with
            found := colorCall locator.unit t call color :: scan.found
            notices := parsed.notices ++ scan.notices }
      | .error rejection =>
          let scan := readCallsUpTo (locator.remembering parsed) t (limit + 1) calls
          { scan with
            notices :=
              parsed.notices ++ .callSkipped call.text call.start rejection :: scan.notices }

def findFirst (locator : Locator) (t : Text) (limit : Nat) : Scan :=
  locator.readCallsUpTo t limit (Call.list locator.codec.callee t)

end Locator

def callAt? (calls : List ColorCall) (p : Position) : Option ColorCall :=
  calls.find? fun call => call.span.contains p

end ColorCalls
