import ColorCalls.Locator

/-! Requests to a codec, and whatever else can serve them. Two readers give the same answers to the
same requests when each reading keeps their states related (`Simulates.run`). -/

namespace ColorCalls

/-- What can be asked of a codec or of a locator that owns it. After a request that makes another
codec the history is that of the new one; the old one stays as it was. -/
inductive Request where
  | parse (text : Text)
  | clone
  | withCallee (callee : Text)
  | withNames (names : ColorNames)
  | scan (unit : ColumnUnit) (t : Text)
  /-- Up to `limit` more color calls of a text in which `calls` are still ahead. -/
  | pull (unit : ColumnUnit) (t : Text) (limit : Nat) (calls : List Call)

inductive Answer where
  | reading (result : Reading) (notices : List Notice)
  | renewed
  | found (calls : List ColorCall) (notices : List Notice)

def answers {State : Type} (serve : State → Request → Answer × State) (state : State) :
    List Request → List Answer × State
  | [] => ([], state)
  | request :: requests =>
      let served := serve state request
      let others := answers serve served.2 requests
      (served.1 :: others.1, others.2)

def Codec.serve (codec : Codec) : Request → Answer × Codec
  | .parse text =>
      let parsed := codec.parse text
      (.reading parsed.result parsed.notices, parsed.codec)
  | .clone => (.renewed, codec.fresh)
  | .withCallee callee => (.renewed, codec.withCallee callee)
  | .withNames names => (.renewed, codec.withNames names)
  | .scan unit t =>
      let scan := ({ codec, unit } : Locator).findAll t
      (.found scan.found scan.notices, scan.locator.codec)
  | .pull unit t limit calls =>
      let scan := ({ codec, unit } : Locator).readCallsUpTo t limit calls
      (.found scan.found scan.notices, scan.locator.codec)

structure Reader.Step (State : Type) where
  result : Reading
  notices : List Notice
  next : State

/-- Whatever reads argument texts one after the other. -/
structure Reader where
  State : Type
  callee : State → Text
  names : State → ColorNames
  create : Text → ColorNames → State
  parse : State → Text → Reader.Step State

namespace Reader

structure Pulled (State : Type) where
  found : List ColorCall
  notices : List Notice
  next : State

def pull (reader : Reader) (unit : ColumnUnit) (t : Text) (state : reader.State) :
    Nat → List Call → Pulled reader.State
  | 0, _ => ⟨[], [], state⟩
  | _ + 1, [] => ⟨[], [], state⟩
  | limit + 1, call :: calls =>
      let step := reader.parse state call.arguments
      match step.result with
      | .ok color =>
          let pulled := pull reader unit t step.next limit calls
          { pulled with
            found := Locator.colorCall unit t call color :: pulled.found
            notices := step.notices ++ pulled.notices }
      | .error rejection =>
          let pulled := pull reader unit t step.next (limit + 1) calls
          { pulled with
            notices :=
              step.notices ++ .callSkipped call.text call.start rejection :: pulled.notices }

def serve (reader : Reader) (state : reader.State) : Request → Answer × reader.State
  | .parse text =>
      let step := reader.parse state text
      (.reading step.result step.notices, step.next)
  | .clone => (.renewed, reader.create (reader.callee state) (reader.names state))
  | .withCallee callee => (.renewed, reader.create callee (reader.names state))
  | .withNames names => (.renewed, reader.create (reader.callee state) names)
  | .scan unit t =>
      let calls := Call.list (reader.callee state) t
      let pulled := reader.pull unit t state calls.length calls
      let summary := Notice.scanned pulled.found.length (reader.callee state) (Text.lineCount t)
      (.found pulled.found (pulled.notices ++ [summary]), pulled.next)
  | .pull unit t limit calls =>
      let pulled := reader.pull unit t state limit calls
      (.found pulled.found pulled.notices, pulled.next)

/-- Related states have the same callee and names, and they give the same reading and notices for
every text and are related again afterwards. -/
structure Simulates (reader other : Reader) (Related : reader.State → other.State → Prop) :
    Prop where
  create : ∀ callee names, Related (reader.create callee names) (other.create callee names)
  callee : ∀ {state state'}, Related state state' → reader.callee state = other.callee state'
  names : ∀ {state state'}, Related state state' → reader.names state = other.names state'
  result : ∀ {state state'}, Related state state' → ∀ text,
    (reader.parse state text).result = (other.parse state' text).result
  notices : ∀ {state state'}, Related state state' → ∀ text,
    (reader.parse state text).notices = (other.parse state' text).notices
  next : ∀ {state state'}, Related state state' → ∀ text,
    Related (reader.parse state text).next (other.parse state' text).next

namespace Simulates

variable {reader other : Reader} {Related : reader.State → other.State → Prop}
  {state : reader.State} {state' : other.State}

theorem pull (h : Simulates reader other Related) (hstate : Related state state')
    (unit : ColumnUnit) (t : Text) (limit : Nat) (calls : List Call) :
    (reader.pull unit t state limit calls).found =
        (other.pull unit t state' limit calls).found ∧
      (reader.pull unit t state limit calls).notices =
        (other.pull unit t state' limit calls).notices ∧
      Related (reader.pull unit t state limit calls).next
        (other.pull unit t state' limit calls).next := by
  induction calls generalizing limit state state' with
  | nil =>
      cases limit with
      | zero => exact ⟨rfl, rfl, hstate⟩
      | succ limit => exact ⟨rfl, rfl, hstate⟩
  | cons call calls ih =>
      cases limit with
      | zero => exact ⟨rfl, rfl, hstate⟩
      | succ limit =>
          have hnext := h.next hstate call.arguments
          simp only [Reader.pull, h.result hstate call.arguments,
            h.notices hstate call.arguments]
          cases (other.parse state' call.arguments).result with
          | ok color =>
              obtain ⟨hfound, hnotices, hafter⟩ := ih hnext limit
              simp only [hfound, hnotices, true_and]
              exact hafter
          | error rejection =>
              obtain ⟨hfound, hnotices, hafter⟩ := ih hnext (limit + 1)
              simp only [hfound, hnotices, true_and]
              exact hafter

theorem serve (h : Simulates reader other Related) (hstate : Related state state')
    (request : Request) :
    (reader.serve state request).1 = (other.serve state' request).1 ∧
      Related (reader.serve state request).2 (other.serve state' request).2 := by
  have hcallee := h.callee hstate
  have hnames := h.names hstate
  cases request with
  | parse text =>
      simp only [Reader.serve, h.result hstate text, h.notices hstate text, true_and]
      exact h.next hstate text
  | clone =>
      simp only [Reader.serve, hcallee, hnames, true_and]
      exact h.create _ _
  | withCallee callee =>
      simp only [Reader.serve, hnames, true_and]
      exact h.create _ _
  | withNames names =>
      simp only [Reader.serve, hcallee, true_and]
      exact h.create _ _
  | scan unit t =>
      obtain ⟨hfound, hnotices, hafter⟩ := h.pull hstate unit t
        (Call.list (other.callee state') t).length (Call.list (other.callee state') t)
      simp only [Reader.serve, hcallee, hfound, hnotices, true_and]
      exact hafter
  | pull unit t limit calls =>
      obtain ⟨hfound, hnotices, hafter⟩ := h.pull hstate unit t limit calls
      simp only [Reader.serve, hfound, hnotices, true_and]
      exact hafter

theorem run (h : Simulates reader other Related) (hstate : Related state state')
    (requests : List Request) :
    (answers reader.serve state requests).1 = (answers other.serve state' requests).1 ∧
      Related (answers reader.serve state requests).2
        (answers other.serve state' requests).2 := by
  induction requests generalizing state state' with
  | nil => exact ⟨rfl, hstate⟩
  | cons request requests ih =>
      obtain ⟨hanswer, hnext⟩ := h.serve hstate request
      obtain ⟨hothers, hlast⟩ := ih hnext
      simp only [answers, hanswer, hothers, true_and]
      exact hlast

end Simulates

end Reader

def Codec.reader : Reader where
  State := Codec
  callee := Codec.callee
  names := Codec.names
  create := fun callee names => { callee, names }
  parse := fun codec text =>
    let parsed := codec.parse text
    ⟨parsed.result, parsed.notices, parsed.codec⟩

namespace Locator

theorem readCallsUpTo_eq_pull (locator : Locator) (t : Text) (limit : Nat) (calls : List Call) :
    locator.readCallsUpTo t limit calls =
      let pulled := Codec.reader.pull locator.unit t locator.codec limit calls
      ⟨pulled.found, { locator with codec := pulled.next }, pulled.notices⟩ := by
  induction calls generalizing locator limit with
  | nil =>
      cases limit with
      | zero => rfl
      | succ limit => rfl
  | cons call calls ih =>
      cases limit with
      | zero => rfl
      | succ limit =>
          have hstep : Codec.reader.parse locator.codec call.arguments =
              ⟨(locator.codec.parse call.arguments).result,
                (locator.codec.parse call.arguments).notices,
                (locator.codec.parse call.arguments).codec⟩ := rfl
          simp only [readCallsUpTo, Reader.pull, hstep, ih, remembering]
          cases (locator.codec.parse call.arguments).result with
          | ok color => rfl
          | error rejection => rfl

theorem readCalls_eq_readCallsUpTo (locator : Locator) (t : Text) {limit : Nat}
    {calls : List Call} (hlimit : calls.length ≤ limit) :
    locator.readCalls t calls = locator.readCallsUpTo t limit calls := by
  induction calls generalizing locator limit with
  | nil =>
      cases limit with
      | zero => rfl
      | succ limit => rfl
  | cons call calls ih =>
      cases limit with
      | zero => contradiction
      | succ limit =>
          have hcalls : calls.length ≤ limit := Nat.le_of_succ_le_succ hlimit
          simp only [readCalls, readCallsUpTo]
          cases (locator.codec.parse call.arguments).result with
          | ok color => rw [ih _ hcalls]
          | error rejection => rw [ih _ (Nat.le_succ_of_le hcalls)]

end Locator

theorem Codec.serve_eq (codec : Codec) (request : Request) :
    codec.serve request = Codec.reader.serve codec request := by
  cases request with
  | parse text => rfl
  | clone => rfl
  | withCallee callee => rfl
  | withNames names => rfl
  | scan unit t =>
      simp only [serve, Reader.serve, Locator.findAll,
        Locator.readCalls_eq_readCallsUpTo _ t (Nat.le_refl _), Locator.readCallsUpTo_eq_pull]
      rfl
  | pull unit t limit calls =>
      simp only [serve, Reader.serve, Locator.readCallsUpTo_eq_pull]
      rfl

end ColorCalls
