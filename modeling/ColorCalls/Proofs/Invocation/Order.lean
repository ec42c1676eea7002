import ColorCalls.Proofs.Invocation.DryRun
import ColorCalls.Proofs.Invocation.Options

/-! Options may stand anywhere. Which arguments are understood depends on their items alone and not
on the order of these (`exists_foldlM_take_eq_ok_iff`). What they ask for depends on the switches
among them, on the last value of each option and on the positional arguments in their order
(`Asks`), so arguments can be rearranged as long as this stays the same (`options_stand_anywhere`).
-/

namespace ColorCalls.Invocation

open Settings

def Item.IsValid : Item → Prop
  | .switch _ | .positional _ => True
  | .option .callee value => ∃ callee, IsCalleeValue value callee
  | .option .columns value => ∃ unit, IsUnit value unit
  | .option .logLevel value => ∃ filter, logFilter? value = some filter
  | .incomplete _ | .unknown _ => False

namespace Draft

theorem exists_take_eq_ok_iff (d : Draft) (item : Item) :
    (∃ d', d.take item = .ok d') ↔ item.IsValid := by
  constructor
  · rintro ⟨d', h⟩
    rcases cases_of_take_eq_ok h with ⟨s, rfl, -⟩ | ⟨argument, rfl, -⟩ | ⟨value, rfl, hne, -⟩ |
      ⟨value, unit, rfl, hunit, -⟩ | ⟨value, filter, rfl, hfilter, -⟩
    · exact trivial
    · exact trivial
    · exact ⟨_, rfl, hne⟩
    · exact ⟨unit, ofText?_eq_some_iff.mp hunit⟩
    · exact ⟨filter, hfilter⟩
  · intro h
    cases item with
    | switch s => exact ⟨_, rfl⟩
    | positional argument => exact ⟨_, rfl⟩
    | option f value =>
        cases f with
        | callee =>
            obtain ⟨callee, rfl, hne⟩ := h
            exact ⟨_, if_neg hne⟩
        | columns =>
            obtain ⟨unit, hunit⟩ := h
            simp only [take, assign, ofText?_eq_some_iff.mpr hunit]
            exact ⟨_, rfl⟩
        | logLevel =>
            obtain ⟨filter, hfilter⟩ := h
            simp only [take, assign, hfilter]
            exact ⟨_, rfl⟩
    | incomplete flag | unknown argument => exact h.elim

theorem exists_foldlM_take_eq_ok_iff (d : Draft) (l : List Item) :
    (∃ d', l.foldlM take d = .ok d') ↔ ∀ item ∈ l, item.IsValid := by
  induction l generalizing d with
  | nil => exact iff_of_true ⟨d, rfl⟩ (List.forall_mem_nil _)
  | cons item l ih =>
      rw [List.forall_mem_cons, ← exists_take_eq_ok_iff d item, List.foldlM_cons]
      constructor
      · rintro ⟨d', h⟩
        obtain ⟨next, hnext, hrest⟩ := exists_of_bind_eq_ok h
        exact ⟨⟨next, hnext⟩, (ih next).mp ⟨d', hrest⟩⟩
      · rintro ⟨⟨next, hnext⟩, hl⟩
        obtain ⟨d', hrest⟩ := (ih next).mpr hl
        exact ⟨d', by rw [hnext]; exact hrest⟩

end Draft

def Item.positional? : Item → Option Text
  | .positional argument => some argument
  | .switch _ | .option _ _ | .incomplete _ | .unknown _ => none

structure Asks (l : List Item) (d : Draft) : Prop where
  switches (s : Switch) : d.IsOn s ↔ .switch s ∈ l
  callee : Decides (fun value o => ∃ callee ∈ o, IsCalleeValue value callee) none
    (lastValue? .callee l) d.invocation.callee
  columns : Decides (fun value o => ∃ unit ∈ o, IsUnit value unit) none
    (lastValue? .columns l) d.invocation.columns
  logLevel : Decides (fun value filter => logFilter? value = some filter) none
    (lastValue? .logLevel l) d.invocation.logLevel
  positionals : d.positionals = l.filterMap Item.positional?
  command : d.invocation.command = none

theorem Decides.unique {α : Type} {StandsFor : Text → α → Prop}
    (hunique : ∀ value a b, StandsFor value a → StandsFor value b → a = b) {before a b : α}
    {value : Option Text} (ha : Decides StandsFor before value a)
    (hb : Decides StandsFor before value b) : a = b := by
  cases ha with
  | kept =>
      cases hb
      rfl
  | given ha =>
      cases hb with
      | given hb => exact hunique _ a b ha hb

namespace Draft

variable {d d' : Draft} {item : Item} {l : List Item}

theorem positionals_take (h : d.take item = .ok d') :
    d'.positionals = d.positionals ++ item.positional?.toList := by
  rcases cases_of_take_eq_ok h with ⟨s, rfl, rfl⟩ | ⟨argument, rfl, rfl⟩ |
    ⟨value, rfl, -, rfl⟩ | ⟨value, unit, rfl, -, rfl⟩ | ⟨value, filter, rfl, -, rfl⟩
  · cases s with
    | help | noSwatch | promoteAlpha | dryRun => exact (List.append_nil _).symm
  · rfl
  · exact (List.append_nil _).symm
  · exact (List.append_nil _).symm
  · exact (List.append_nil _).symm

theorem positionals_foldlM_take (h : l.foldlM take d = .ok d') :
    d'.positionals = d.positionals ++ l.filterMap Item.positional? := by
  induction l generalizing d with
  | nil =>
      cases h
      exact (List.append_nil _).symm
  | cons item l ih =>
      rw [List.foldlM_cons] at h
      obtain ⟨next, hnext, hrest⟩ := exists_of_bind_eq_ok h
      rw [ih hrest, positionals_take hnext, List.append_assoc, List.filterMap_cons]
      cases item.positional? with
      | none => rfl
      | some argument => rfl

theorem asks_of_foldlM_take (h : l.foldlM take {} = .ok d) : Asks l d where
  switches s := by
    have hnew : ¬ ({} : Draft).IsOn s := by cases s <;> simp [IsOn]
    rw [isOn_foldlM_take h, or_iff_right hnew]
  callee := decides_foldlM_take (fun d => d.invocation.callee) callee_take h
  columns := decides_foldlM_take (fun d => d.invocation.columns) columns_take h
  logLevel := decides_foldlM_take (fun d => d.invocation.logLevel) logLevel_take h
  positionals := positionals_foldlM_take h
  command := foldlM_take_induction (P := fun d => d.invocation.command = none)
    (fun _ _ _ hd htake => (command_take htake).trans hd) rfl h

end Draft

structure SameButOrder (l l' : List Item) : Prop where
  mem_iff (item : Item) : item ∈ l ↔ item ∈ l'
  values (f : ValuedFlag) : l.filterMap (Item.value? f) = l'.filterMap (Item.value? f)
  positionals : l.filterMap Item.positional? = l'.filterMap Item.positional?

theorem SameButOrder.symm {l l' : List Item} (h : SameButOrder l l') : SameButOrder l' l where
  mem_iff item := (h.mem_iff item).symm
  values f := (h.values f).symm
  positionals := h.positionals.symm

attribute [ext] Invocation Draft

theorem Draft.eq_of_isOn_iff {d d' : Draft} (hswitches : ∀ s, d.IsOn s ↔ d'.IsOn s)
    (hcommand : d.invocation.command = d'.invocation.command)
    (hcallee : d.invocation.callee = d'.invocation.callee)
    (hcolumns : d.invocation.columns = d'.invocation.columns)
    (hlogLevel : d.invocation.logLevel = d'.invocation.logLevel)
    (hpositionals : d.positionals = d'.positionals) : d = d' := by
  have hswatch : d.invocation.swatch = d'.invocation.swatch := by
    have hoff := hswitches .noSwatch
    simp only [IsOn, ← Bool.not_eq_true] at hoff
    exact Bool.eq_iff_iff.mpr (not_iff_not.mp hoff)
  have hinvocation : d.invocation = d'.invocation :=
    Invocation.ext (Bool.eq_iff_iff.mpr (hswitches .help)) hcommand hcallee hcolumns hswatch
      (Bool.eq_iff_iff.mpr (hswitches .promoteAlpha)) hlogLevel
  exact Draft.ext hinvocation hpositionals (Bool.eq_iff_iff.mpr (hswitches .dryRun))

theorem Asks.eq_of_sameButOrder {l l' : List Item} {d d' : Draft} (hd : Asks l d)
    (hd' : Asks l' d') (h : SameButOrder l l') : d = d' := by
  have hlast (f : ValuedFlag) : lastValue? f l = lastValue? f l' := by
    rw [lastValue?, lastValue?, h.values f]
  apply Draft.eq_of_isOn_iff
  · intro s
    rw [hd.switches, hd'.switches, h.mem_iff]
  · rw [hd.command, hd'.command]
  · refine Decides.unique ?_ hd.callee (hlast .callee ▸ hd'.callee)
    rintro value - - ⟨a, rfl, ha⟩ ⟨b, rfl, hb⟩
    rw [← ha.trim_eq, ← hb.trim_eq]
  · refine Decides.unique ?_ hd.columns (hlast .columns ▸ hd'.columns)
    rintro value - - ⟨a, rfl, ha⟩ ⟨b, rfl, hb⟩
    rw [← ofText?_eq_some_iff.mpr ha, ofText?_eq_some_iff.mpr hb]
  · refine Decides.unique ?_ hd.logLevel (hlast .logLevel ▸ hd'.logLevel)
    intro value a b ha hb
    exact Option.some.inj (ha.symm.trans hb)
  · rw [hd.positionals, hd'.positionals, h.positionals]

theorem SameButOrder.foldlM_take_eq_ok {l l' : List Item} (h : SameButOrder l l') {d : Draft}
    (hd : l.foldlM Draft.take {} = .ok d) : l'.foldlM Draft.take {} = .ok d := by
  have hvalid := (Draft.exists_foldlM_take_eq_ok_iff {} l).mp ⟨d, hd⟩
  have hvalid' : ∀ item ∈ l', item.IsValid :=
    fun item hitem => hvalid item ((h.mem_iff item).mpr hitem)
  obtain ⟨d', hd'⟩ := (Draft.exists_foldlM_take_eq_ok_iff {} l').mpr hvalid'
  have heq : d = d' := (Draft.asks_of_foldlM_take hd).eq_of_sameButOrder
    (Draft.asks_of_foldlM_take hd') h
  rw [hd', heq]

theorem SameButOrder.ofArguments_eq_ok {arguments arguments' : List Text}
    (h : SameButOrder (items arguments) (items arguments')) {invocation : Invocation}
    (hunderstood : ofArguments arguments = .ok invocation) :
    ofArguments arguments' = .ok invocation := by
  obtain ⟨d, hdraft, hfinish⟩ := exists_of_bind_eq_ok hunderstood
  rw [Draft.absorb_eq_foldlM_items] at hdraft
  rw [Invocation.ofArguments, Draft.absorb_eq_foldlM_items, h.foldlM_take_eq_ok hdraft]
  exact hfinish

/-- The arguments by their items: an option stands together with its value. -/
def groups : List Text → List (List Text)
  | [] => []
  | argument :: rest =>
      match kind argument with
      | .switch _ => [argument] :: groups rest
      | .valued _ =>
          match rest with
          | [] => [[argument]]
          | value :: rest => [argument, value] :: groups rest
      | .positional => [argument] :: groups rest
      | .unknown => [argument] :: groups rest

def leads (k : Kind) (group : List Text) : Bool := group.head?.map kind = some k

/-- Another order of the groups, in which positional arguments keep theirs, and so do the values of
each option. -/
structure Rearranges (order l : List (List Text)) : Prop where
  perm : order.Perm l
  positionals : order.filter (leads .positional) = l.filter (leads .positional)
  options (f : ValuedFlag) : order.filter (leads (.valued f)) = l.filter (leads (.valued f))

inductive Writes : List Text → Item → Prop where
  | switch {argument : Text} {s : Switch} (h : kind argument = .switch s) :
      Writes [argument] (.switch s)
  | option {argument : Text} {f : ValuedFlag} (h : kind argument = .valued f) (value : Text) :
      Writes [argument, value] (.option f value)
  | positional {argument : Text} (h : kind argument = .positional) :
      Writes [argument] (.positional argument)
  | unknown {argument : Text} (h : kind argument = .unknown) :
      Writes [argument] (.unknown argument)

theorem Writes.items_append {group : List Text} {item : Item} (h : Writes group item)
    (rest : List Text) : items (group ++ rest) = item :: items rest := by
  cases h with
  | switch h | positional h | unknown h => simp only [List.singleton_append, items, h]
  | option h value => simp only [List.cons_append, List.nil_append, items, h]

theorem Writes.items_eq {group : List Text} {item : Item} (h : Writes group item) :
    items group = [item] := by
  have hitems := h.items_append []
  rwa [List.append_nil] at hitems

theorem Writes.positional?_eq_none {group : List Text} {item : Item} (h : Writes group item)
    (hleads : leads .positional group = false) : item.positional? = none := by
  cases h with
  | switch h | option h value | unknown h => rfl
  | positional h => simp [leads, h] at hleads

theorem Writes.value?_eq_none {group : List Text} {item : Item} (h : Writes group item)
    {f : ValuedFlag} (hleads : leads (.valued f) group = false) : item.value? f = none := by
  cases h with
  | switch h | positional h | unknown h => rfl
  | option h value => simpa [leads, h, Item.value?] using hleads

theorem groups_cons {argument : Text} (hvalued : ∀ f, kind argument ≠ .valued f)
    (rest : List Text) : groups (argument :: rest) = [argument] :: groups rest := by
  rw [groups.eq_def]
  cases hkind : kind argument with
  | valued f => exact absurd hkind (hvalued f)
  | switch s | positional | unknown => simp only [hkind]

theorem flatten_groups (arguments : List Text) : (groups arguments).flatten = arguments := by
  induction arguments using groups.induct with
  | case1 => rfl
  | case2 argument rest s hkind ih | case5 argument rest hkind ih | case6 argument rest hkind ih =>
      rw [groups_cons (by simp [hkind]), List.flatten_cons, ih, List.singleton_append]
  | case3 argument f hkind =>
      simp only [groups, hkind]
      rfl
  | case4 argument f hkind value rest ih =>
      simp only [groups, hkind, List.flatten_cons, ih]
      rfl

/-- Each group writes an item, unless an option finds no value. -/
theorem forall_groups_exists_writes {arguments : List Text}
    (hvalues : ∀ flag, .incomplete flag ∉ items arguments) :
    ∀ group ∈ groups arguments, ∃ item, Writes group item := by
  induction arguments using groups.induct with
  | case1 => exact List.forall_mem_nil _
  | case2 argument rest s hkind ih =>
      rw [items, hkind] at hvalues
      rw [groups_cons (by simp [hkind])]
      exact List.forall_mem_cons.mpr
        ⟨⟨_, .switch hkind⟩, ih fun flag => List.not_mem_of_not_mem_cons (hvalues flag)⟩
  | case3 argument f hkind => simp [items, hkind] at hvalues
  | case4 argument f hkind value rest ih =>
      simp only [items, hkind, List.mem_cons, not_or] at hvalues
      simp only [groups, hkind]
      exact List.forall_mem_cons.mpr
        ⟨⟨_, .option hkind value⟩, ih fun flag => (hvalues flag).2⟩
  | case5 argument rest hkind ih =>
      rw [items, hkind] at hvalues
      rw [groups_cons (by simp [hkind])]
      exact List.forall_mem_cons.mpr
        ⟨⟨_, .positional hkind⟩, ih fun flag => List.not_mem_of_not_mem_cons (hvalues flag)⟩
  | case6 argument rest hkind ih =>
      rw [items, hkind] at hvalues
      rw [groups_cons (by simp [hkind])]
      exact List.forall_mem_cons.mpr
        ⟨⟨_, .unknown hkind⟩, ih fun flag => List.not_mem_of_not_mem_cons (hvalues flag)⟩

variable {order l : List (List Text)}

theorem items_flatten (hl : ∀ group ∈ l, ∃ item, Writes group item) :
    items l.flatten = l.flatMap items := by
  induction l with
  | nil => rfl
  | cons group l ih =>
      obtain ⟨⟨item, hitem⟩, hl⟩ := List.forall_mem_cons.mp hl
      rw [List.flatten_cons, hitem.items_append, ih hl, List.flatMap_cons, hitem.items_eq,
        List.singleton_append]

theorem filterMap_flatMap_items {α : Type} {read? : Item → Option α} {p : List Text → Bool}
    (hnone : ∀ {group item}, Writes group item → p group = false → read? item = none)
    (hl : ∀ group ∈ l, ∃ item, Writes group item) :
    (l.flatMap items).filterMap read? = ((l.filter p).flatMap items).filterMap read? := by
  induction l with
  | nil => rfl
  | cons group l ih =>
      obtain ⟨⟨item, hitem⟩, hl⟩ := List.forall_mem_cons.mp hl
      rw [List.flatMap_cons, List.filterMap_append, ih hl]
      cases hp : p group with
      | true =>
          rw [List.filter_cons_of_pos hp, List.flatMap_cons, List.filterMap_append]
      | false =>
          rw [List.filter_cons_of_neg (by simp [hp]), hitem.items_eq,
            List.filterMap_cons_none (hnone hitem hp), List.filterMap_nil, List.nil_append]

theorem Rearranges.sameButOrder (h : Rearranges order l)
    (hl : ∀ group ∈ l, ∃ item, Writes group item) :
    SameButOrder (items order.flatten) (items l.flatten) := by
  have horder : ∀ group ∈ order, ∃ item, Writes group item :=
    fun group hgroup => hl group (h.perm.mem_iff.mp hgroup)
  rw [items_flatten horder, items_flatten hl]
  refine ⟨fun item => (h.perm.flatMap_right items).mem_iff, fun f => ?_, ?_⟩
  · rw [filterMap_flatMap_items (fun hw => hw.value?_eq_none) horder, h.options f,
      ← filterMap_flatMap_items (fun hw => hw.value?_eq_none) hl]
  · rw [filterMap_flatMap_items Writes.positional?_eq_none horder, h.positionals,
      ← filterMap_flatMap_items Writes.positional?_eq_none hl]

/-- Arguments in which every option has its value are understood in every order of their items in
which the positional arguments keep theirs, and so do repetitions of an option, or in none; and what
they ask for is always the same. -/
theorem options_stand_anywhere {arguments : List Text} {order : List (List Text)}
    (hvalues : ∀ flag, .incomplete flag ∉ items arguments)
    (horder : Rearranges order (groups arguments)) (invocation : Invocation) :
    ofArguments order.flatten = .ok invocation ↔ ofArguments arguments = .ok invocation := by
  have hsame := horder.sameButOrder (forall_groups_exists_writes hvalues)
  rw [flatten_groups] at hsame
  exact ⟨hsame.ofArguments_eq_ok, hsame.symm.ofArguments_eq_ok⟩

theorem options_stand_anywhere_around_set :
    let arguments : List Text := ["--columns", "byte", "set", "--constructor", "--help", "ui.py",
      "--columns", "char", "3:12", "--dry-run", "255,0,0"]
    let order : List (List Text) := [["--dry-run"], ["set"], ["--columns", "byte"], ["ui.py"],
      ["3:12"], ["255,0,0"], ["--columns", "char"], ["--constructor", "--help"]]
    let invocation : Invocation :=
      { callee := some "--help", columns := some .char,
        command := some (.set ⟨"ui.py", ⟨2, 11⟩,
          ⟨.ofByte 255, .ofByte 0, .ofByte 0, .ofByte 255⟩, true⟩) }
    (∀ flag, .incomplete flag ∉ items arguments) ∧ Rearranges order (groups arguments) ∧
      ofArguments arguments = .ok invocation ∧ ofArguments order.flatten = .ok invocation := by
  intro arguments order invocation
  have hvalues : ∀ flag, .incomplete flag ∉ items arguments := by
    intro flag
    have hitems : items arguments = [.option .columns "byte", .positional "set",
      .option .callee "--help", .positional "ui.py", .option .columns "char",
      .positional "3:12", .switch .dryRun, .positional "255,0,0"] := by decide +kernel
    rw [hitems]
    simp
  have horder : Rearranges order (groups arguments) :=
    ⟨by decide +kernel, by decide +kernel, fun f => by cases f <;> decide +kernel⟩
  have hunderstood : ofArguments arguments = .ok invocation := by decide +kernel
  exact ⟨hvalues, horder, hunderstood,
    (options_stand_anywhere hvalues horder invocation).mpr hunderstood⟩

end ColorCalls.Invocation
