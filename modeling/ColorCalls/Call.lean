import ColorCalls.Text.Blank
import ColorCalls.Text.Split

/-! Calls in a text, found by their shape alone: the callee, optional white space, an opening
parenthesis, at least one character, and the first closing parenthesis after it. Calls are taken
from the left and never overlap; what stands between the parentheses is not looked at. -/

namespace ColorCalls

structure Call where
  start : Nat
  stop : Nat
  text : Text
  arguments : Text
  deriving DecidableEq, Repr

namespace Call

structure Opening where
  /-- The callee up to and including the opening parenthesis. -/
  head : Text
  arguments : Text
  rest : Text

def Opening.whole (o : Opening) : Text := o.head ++ o.arguments ++ ')' :: o.rest

def opening? (callee t : Text) : Option Opening := do
  let afterCallee ← Text.afterStart? callee t
  match afterCallee.dropWhile Text.isBlank with
  | '(' :: inside =>
      let arguments := inside.takeWhile (· ≠ ')')
      match inside.dropWhile (· ≠ ')') with
      | ')' :: rest =>
          if arguments = [] then none
          else some ⟨callee ++ afterCallee.takeWhile Text.isBlank ++ ['('], arguments, rest⟩
      | _ => none
  | _ => none

theorem whole_of_opening? {callee t : Text} {o : Opening} (h : opening? callee t = some o) :
    o.whole = t := by
  unfold opening? at h
  obtain ⟨afterCallee, hafter, h⟩ := Option.bind_eq_some_iff.mp h
  have ht := Text.afterStart?_eq_some_iff.mp hafter
  split at h
  · rename_i inside hblank
    split at h
    · rename_i rest hrest
      dsimp only at h
      split at h
      · contradiction
      · simp only [Option.some.injEq] at h
        subst h
        have hinside := List.takeWhile_append_dropWhile (p := (· ≠ ')')) (l := inside)
        have hafter := List.takeWhile_append_dropWhile (p := Text.isBlank) (l := afterCallee)
        rw [hrest] at hinside
        rw [hblank] at hafter
        simp only [Opening.whole, List.append_assoc, List.cons_append, List.nil_append]
        rw [hinside, hafter, ht]
    · contradiction
  · contradiction

theorem length_rest_lt {callee t : Text} {o : Opening} (h : opening? callee t = some o) :
    o.rest.length < t.length := by
  rw [← whole_of_opening? h]
  simp only [Opening.whole, List.length_append, List.length_cons]
  omega

/-- The calls of a text that stands at the byte offset `offset` of a longer one. -/
def listFrom (callee : Text) (offset : Nat) (t : Text) : List Call :=
  match t with
  | [] => []
  | c :: r =>
      match _h : opening? callee (c :: r) with
      | some o =>
          let text := o.head ++ o.arguments ++ [')']
          let stop := offset + Text.bytes text
          ⟨offset, stop, text, o.arguments⟩ :: listFrom callee stop o.rest
      | none => listFrom callee (offset + c.utf8Size) r
  termination_by t.length
  decreasing_by
    · exact length_rest_lt _h
    · simp

def list (callee t : Text) : List Call := listFrom callee 0 t

end Call

end ColorCalls
