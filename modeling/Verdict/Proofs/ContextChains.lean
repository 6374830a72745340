import Verdict.Proofs.CollectedErrors
import Verdict.Proofs.CompositionalRuns

/-! Contexts in a chain. A lookup sees the nearest binding of a key and nothing else, so a chain
answers like the one scope of its nearest bindings, and validations run the same in both. -/
namespace Verdict

namespace SortedEntries
variable {κ α : Type} [Ord κ] {k : κ}

theorem get?_append (es fs : List (κ × α)) : get? k (es ++ fs) = (get? k es).or (get? k fs) := by
  induction es with
  | nil => rfl
  | cons e rest ih =>
    rw [List.cons_append, get?, get?]
    split
    · rfl
    · exact ih

/-- Entries written from the last to the first: the first of each key stands. -/
theorem get?_foldr_insert [Std.LawfulEqOrd κ] [DecidableEq κ] (es : List (κ × α)) :
    get? k (es.foldr (fun e => insert e.1 e.2) []) = get? k es := by
  induction es with
  | nil => rfl
  | cons e rest ih =>
    rw [List.foldr_cons, get?_insert, ih, get?]
    by_cases h : k = e.1
    · simp [h]
    · have hne : compare k e.1 ≠ .eq := fun he => h (Std.LawfulEqOrd.eq_of_compare he)
      simp [h, hne]

end SortedEntries

namespace Context

/-- All scopes, the nearest first. -/
def scopes (c : Context) : List Scope := c.scope :: c.outer

/-- The nearest of the scopes that bind the key binds it to the item. -/
def Nearest (c : Context) (key : String) (item : Item) : Prop :=
  ∃ nearer scope farther, c.scopes = nearer ++ scope :: farther ∧
    (∀ s ∈ nearer, SortedEntries.get? key s = none) ∧ SortedEntries.get? key scope = some item

/-- The second context has no parent and binds each key as the first one does nearest. -/
structure FlattensTo (c d : Context) : Prop where
  orphan : d.parent? = none
  binds (key : String) (item : Item) :
    SortedEntries.get? key d.scope = some item ↔ c.Nearest key item

/-- The nearest bindings of a chain in a single scope. -/
def flat (c : Context) : Context :=
  ⟨c.scopes.flatten.foldr (fun e => SortedEntries.insert e.1 e.2) [], []⟩

/-- No lookup tells the two contexts apart. -/
structure Agrees (c d : Context) : Prop where
  get? (type : ItemType) (key : String) : c.get? type key = d.get? type key
  contains (key : String) : c.contains key = d.contains key

/-- A run that depends on the context only through its lookups. -/
def LooksUp (r : Context → Run) : Prop := ∀ c d : Context, c.Agrees d → r c = r d

variable {c : Context} {key : String} {item : Item}

theorem nearest?_eq_findSome? (key : String) (scopes : List Scope) :
    nearest? key scopes = scopes.findSome? (SortedEntries.get? key) := by
  induction scopes with
  | nil => rfl
  | cons s rest ih =>
    rw [nearest?, List.findSome?_cons, ih]
    cases SortedEntries.get? key s <;> rfl

theorem nearest?_eq_get?_flatten (key : String) (scopes : List Scope) :
    nearest? key scopes = SortedEntries.get? key scopes.flatten := by
  induction scopes with
  | nil => rfl
  | cons s rest ih =>
    rw [nearest?, List.flatten_cons, SortedEntries.get?_append, ih]
    cases SortedEntries.get? key s <;> rfl

theorem find?_eq_some_iff : c.find? key = some item ↔ c.Nearest key item := by
  rw [find?, nearest?_eq_findSome?, List.findSome?_eq_some_iff]
  refine exists_congr fun nearer => exists_congr fun scope => exists_congr fun farther => ?_
  exact and_congr_right fun _ => and_comm

theorem find?_eq_none_iff :
    c.find? key = none ↔ ∀ s ∈ c.scopes, SortedEntries.get? key s = none := by
  rw [find?, nearest?_eq_findSome?, List.findSome?_eq_none_iff]
  rfl

theorem get?_of_nearest (h : c.Nearest key item) (type : ItemType) :
    c.get? type key = if item.type = type then some item else none := by
  rw [get?, find?_eq_some_iff.mpr h]

theorem get?_of_unbound (h : ∀ s ∈ c.scopes, SortedEntries.get? key s = none) (type : ItemType) :
    c.get? type key = none := by
  rw [get?, find?_eq_none_iff.mpr h]

theorem contains_iff :
    c.contains key = true ↔ ∃ s ∈ c.scopes, (SortedEntries.get? key s).isSome := by
  rw [contains, Option.isSome_iff_ne_none, Ne, find?_eq_none_iff]
  simp [Option.isSome_iff_ne_none]

theorem get?_scope_flat (c : Context) (key : String) :
    SortedEntries.get? key c.flat.scope = c.find? key := by
  rw [find?, nearest?_eq_get?_flatten]
  exact SortedEntries.get?_foldr_insert _

theorem flattensTo_flat (c : Context) : c.FlattensTo c.flat where
  orphan := rfl
  binds key item := by rw [get?_scope_flat, find?_eq_some_iff]

/-- In a context without a parent a key is bound in its one scope or not at all. -/
theorem find?_of_orphan {d : Context} (h : d.parent? = none) (key : String) :
    d.find? key = SortedEntries.get? key d.scope := by
  obtain ⟨scope, outer⟩ := d
  cases outer with
  | nil =>
    rw [find?, nearest?, nearest?]
    cases SortedEntries.get? key scope <;> rfl
  | cons s rest => cases h

/-- A chain answers every lookup as its flat form does. -/
theorem FlattensTo.agrees {d : Context} (h : c.FlattensTo d) : c.Agrees d := by
  have hfind (key : String) : c.find? key = d.find? key := by
    apply Option.ext
    intro item
    rw [find?_of_orphan h.orphan, h.binds, find?_eq_some_iff]
  constructor
  · intro type key
    rw [get?, get?, hfind]
  · intro key
    rw [contains, contains, hfind]

end Context

/-- No step of a validation looks at the context on its own. -/
theorem stepwise_looksUp : Stepwise Context.LooksUp where
  pass _ _ _ := rfl
  reject _ _ _ _ := rfl
  raise _ _ _ _ := rfl
  leaf _ _ _ _ _ := rfl
  andThen hr hs c d h := by simp only [hr c d h, hs c d h]
  collect _ h c d hcd := collect_congr (fun x hx => h x hx c d hcd) []
  structOpened name n h c d hcd := by simp only [h c d hcd]
  mapOpened n m h c d hcd := by simp only [h c d hcd]
  structAborted name path h c d hcd := by simp only [h c d hcd]
  mapAborted key h c d hcd := by simp only [h c d hcd]

theorem Run.witnessed_inj {r s : Run} : r.witnessed = s.witnessed ↔ r = s := by
  refine ⟨fun h => ?_, congrArg _⟩
  obtain ⟨events, outcome⟩ := r
  obtain ⟨events', outcome'⟩ := s
  obtain ⟨hevents, rfl⟩ := Run.mk.inj h
  obtain ⟨rfl, _⟩ := List.append_inj' (List.cons.inj hevents).2 rfl
  rfl

theorem Context.looksUp_witnessed_iff (w : Validator) :
    (LooksUp fun c => (w c).witnessed) ↔ LooksUp w :=
  forall₃_congr fun _ _ _ => Run.witnessed_inj

/-- All notes of a run are of a certain kind. -/
def Run.NotesOnly (p : String → Prop) (r : Run) : Prop := ∀ text, .noted text ∈ r.events → p text

namespace Run.NotesOnly
variable {p : String → Prop} {r s : Run}

theorem silent (outcome : Outcome) : (Run.silent outcome).NotesOnly p :=
  fun _ h => absurd h List.not_mem_nil

theorem after {events : List Event} (h : r.NotesOnly p)
    (he : ∀ text, .noted text ∈ events → p text) : (r.after events).NotesOnly p := by
  intro text ht
  exact (List.mem_append.mp ht).elim (he text) (h text)

theorem witnessed_iff : r.witnessed.NotesOnly p ↔ r.NotesOnly p :=
  forall_congr' fun text => by simp [Run.witnessed]

theorem andThen {next : Unit → Run} (h : r.NotesOnly p) (hn : (next ()).NotesOnly p) :
    (r.andThen next).NotesOnly p := by
  rw [Run.andThen]
  split
  · exact hn.after h
  · exact h

theorem reportAbort (h : r.NotesOnly p) {event : String → Event}
    (he : ∀ message text, event message ≠ .noted text) : (r.reportAbort event).NotesOnly p := by
  rw [Run.reportAbort]
  split
  · split
    · intro text ht
      apply h
      simpa [Ne.symm (he _ text)] using ht
    · exact h
  · exact h

theorem collect {α : Type} {failFast : Bool} {write : α → Error → KeyedErrors → KeyedErrors}
    {check : α → Run} {xs : List α} (h : ∀ x ∈ xs, (check x).NotesOnly p) (es : KeyedErrors) :
    (collect failFast write check es xs).NotesOnly p := by
  induction xs generalizing es with
  | nil => exact silent _
  | cons x xs ih =>
    have hx := h x List.mem_cons_self
    have htail := ih fun y hy => h y (List.mem_cons_of_mem _ hy)
    rcases collect_cons_cases failFast write check es x xs with
      ⟨_, heq⟩ | ⟨_, _, ⟨_, heq⟩ | ⟨_, _, heq⟩ | ⟨_, _, heq⟩⟩ <;> rw [heq]
    · exact (htail _).after hx
    · exact hx
    · exact (silent _).after hx
    · exact (htail _).after hx

end Run.NotesOnly

/-- In a given context no step of a validation leaves a note, and none changes the context. -/
theorem stepwise_notesOnly (c : Context) (p : String → Prop) :
    Stepwise fun r => (r c).NotesOnly p where
  pass := .silent _
  reject _ := .silent _
  raise _ := fun _ h => by cases List.mem_singleton.mp h
  leaf _ _ := Run.NotesOnly.witnessed_iff.mpr (.silent _)
  andThen hr hs := hr.andThen hs
  collect _ h := .collect h []
  structOpened _ _ h := h.after (by simp)
  mapOpened _ _ h := h.after (by simp)
  structAborted _ _ h := h.reportAbort (by simp)
  mapAborted _ h := h.reportAbort (by simp)

/-- A lookup answers the nearest binding of a key if that has the type asked for, and validations
whose code from outside only looks things up run the same in a chain and in its flat form. That
code is handed the context of the whole: what it notes there is all that is noted. A check may
count on either of the self-validations in the value that it is given. -/
theorem chain_answers_as_flat (c : Context) :
    ((∀ key item, c.Nearest key item → ∀ type,
        c.get? type key = if item.type = type then some item else none) ∧
      (∀ key, (∀ s ∈ c.scopes, SortedEntries.get? key s = none) → ∀ type,
        c.get? type key = none) ∧
      ∀ key, c.contains key = true ↔ ∃ s ∈ c.scopes, (SortedEntries.get? key s).isSome) ∧
    c.FlattensTo c.flat ∧
    (∀ d, c.FlattensTo d → c.Agrees d ∧
      ∀ (rules : List Rule) (bindings : List (FieldBinding (List Rule))) (v : Value),
        (∀ r ∈ rules, r.Keeps Context.LooksUp) →
        (∀ b ∈ bindings, ∀ r ∈ b.rules, r.Keeps Context.LooksUp) →
        v.Validators Context.LooksUp →
          Rule.validate rules c v = Rule.validate rules d v ∧
            Rule.checkAll rules c v = Rule.checkAll rules d v ∧
            Rule.validateStruct bindings c v = Rule.validateStruct bindings d v) ∧
    ∀ (p : String → Prop) (rules : List Rule) (bindings : List (FieldBinding (List Rule)))
      (v : Value), (∀ r ∈ rules, r.Keeps fun w => (w c).NotesOnly p) →
      (∀ b ∈ bindings, ∀ r ∈ b.rules, r.Keeps fun w => (w c).NotesOnly p) →
      v.Validators (fun w => (w c).NotesOnly p) →
        (Rule.validate rules c v).NotesOnly p ∧ (Rule.checkAll rules c v).NotesOnly p ∧
          (Rule.validateStruct bindings c v).NotesOnly p := by
  refine ⟨⟨fun _ _ => Context.get?_of_nearest, fun _ => Context.get?_of_unbound,
    fun _ => Context.contains_iff⟩, c.flattensTo_flat, fun d hd => ?_, fun p rules bindings v => ?_⟩
  · refine ⟨hd.agrees, fun rules bindings v hr hb hv => ?_⟩
    obtain ⟨hrun, hall, hstruct⟩ :=
      stepwise_looksUp.compositional.validations Context.looksUp_witnessed_iff hr hb hv
    exact ⟨hrun c d hd.agrees, hall c d hd.agrees, hstruct c d hd.agrees⟩
  · exact (stepwise_notesOnly c p).compositional.validations
      fun _ => Run.NotesOnly.witnessed_iff

/-- A flag hides the number farther out under the same key, so five is not held against it, while
the tenant two scopes away is seen from inside a map inside a struct. A check that hands the struct
on passes, and so does the struct's own validator. -/
theorem chain_answers_as_flat_of_hidden_limit :
    let count : ItemType := ⟨"Count"⟩
    let flag : ItemType := ⟨"Flag"⟩
    let three : Item := ⟨count, .number 3⟩
    let raised : Item := ⟨flag, .bool true⟩
    let owner : Item := ⟨⟨"Tenant"⟩, .record [("name", .text "t")]⟩
    let c := ((Context.background.insert "limit" three).insert "tenant"
      owner).child.child.insert "limit" raised
    let above : Error := .violation (.plain "limit" "over the limit")
    let known : Error := .violation (.plain "tenant" "has a tenant")
    let limit : Check := fun c v =>
      match c.get? count "limit", v with
      | some ⟨_, .number n⟩, .int m => if n < m.toInt then .fail above else .ok
      | _, _ => .ok
    let tenant : Check := fun c _ =>
      if c.contains "tenant" then ⟨[.noted "seen"], .error known⟩ else .ok
    let handOn : Check := Rule.validate [.leaf .notNil]
    let rules : List Rule :=
      [.custom handOn false, .wrapped (.custom limit false), .choose true [.custom tenant true] []]
    let bindings : List (FieldBinding (List Rule)) := [⟨"N", [.custom limit false]⟩,
      ⟨"K", [.map [⟨.text "a", [.custom tenant false], false⟩] false]⟩]
    let v : Value := .struct "S"
      [⟨"N", none, false, .int 5⟩, ⟨"K", none, false, .map .text [(.text "a", .nil)]⟩]
      (some (.wrapped fun c => if c.contains "region" then .fail known else .ok))
    c.Nearest "limit" raised ∧ c.get? count "limit" = none ∧ c.get? flag "limit" = some raised ∧
      (∀ s ∈ c.scopes, SortedEntries.get? "x" s = none) ∧ c.get? count "x" = none ∧
      c.FlattensTo c.flat ∧
      (∀ r ∈ rules, r.Keeps Context.LooksUp) ∧
      (∀ b ∈ bindings, ∀ r ∈ b.rules, r.Keeps Context.LooksUp) ∧
      v.Validators Context.LooksUp ∧
      (∀ r ∈ rules, r.Keeps fun w => (w c).NotesOnly (· = "seen")) ∧
      (∀ b ∈ bindings, ∀ r ∈ b.rules, r.Keeps fun w => (w c).NotesOnly (· = "seen")) ∧
      v.Validators (fun w => (w c).NotesOnly (· = "seen")) ∧
      (Rule.validateStruct bindings c v).outcome =
        .error (.fields [("K", some (.fields [("a", some known)]))]) ∧
      (Rule.validateStruct bindings .background v).outcome = .ok () ∧
      (Rule.validate rules c v = Rule.validate rules c.flat v ∧
        Rule.checkAll rules c v = Rule.checkAll rules c.flat v ∧
        Rule.validateStruct bindings c v = Rule.validateStruct bindings c.flat v) ∧
      (Rule.validate rules c v).NotesOnly (· = "seen") ∧
        (Rule.checkAll rules c v).NotesOnly (· = "seen") ∧
        (Rule.validateStruct bindings c v).NotesOnly (· = "seen") := by
  intro count flag three raised owner c above known limit tenant handOn rules bindings v
  have hseen : (Rule.validateStruct bindings c v).outcome =
      .error (.fields [("K", some (.fields [("a", some known)]))]) := by
    subst v bindings rules handOn tenant limit known above c owner raised three flag count
    rfl
  have hunseen : (Rule.validateStruct bindings .background v).outcome = .ok () := by
    subst v bindings rules handOn tenant limit known above c owner raised three flag count
    rfl
  have hcustoms {P : Validator → Prop} (hl : ∀ v, P fun c => limit c v)
      (ht : ∀ v, P fun c => tenant c v) (hh : ∀ v, v.Validators P → P fun c => handOn c v) :
      (∀ r ∈ rules, r.Keeps P) ∧ ∀ b ∈ bindings, ∀ r ∈ b.rules, r.Keeps P := by
    have hlimit : (Rule.custom limit false).Keeps P := .custom false fun v _ => hl v
    have htenant (ends : Bool) : (Rule.custom tenant ends).Keeps P := .custom ends fun v _ => ht v
    constructor
    · simpa [rules] using ⟨.custom false hh, .wrapped hlimit,
        .choose true (by simpa using htenant true) (by simp)⟩
    · simpa [bindings] using ⟨hlimit, .map false (by simpa using htenant false)⟩
  have hvalidators {P : Validator → Prop}
      (hw : P fun c => if c.contains "region" then .fail known else .ok) : v.Validators P := by
    have hmap : (Value.map .text [(.text "a", .nil)]).Validators P :=
      .of_parts rfl (by simpa [Value.parts] using .of_atom rfl rfl)
    refine .intro (fun w h => by cases h; exact hw) ?_
    simpa [v, Value.parts] using ⟨.of_atom rfl rfl, hmap⟩
  have hlimit : ∀ v, Context.LooksUp fun c => limit c v := by
    intro v c d h
    simp only [limit, h.get?]
  have htenant : ∀ v, Context.LooksUp fun c => tenant c v := by
    intro v c d h
    simp only [tenant, h.contains]
  have hnotNil {P : Validator → Prop} : ∀ r ∈ [Rule.leaf .notNil], r.Keeps P := by
    simpa using Rule.Customs.leaf .notNil
  have hunbound {P : Validator → Prop} :
      ∀ b ∈ ([] : List (FieldBinding (List Rule))), ∀ r ∈ b.rules, r.Keeps P := by
    simp
  have hhandOn : ∀ v, v.Validators Context.LooksUp → Context.LooksUp fun c => handOn c v :=
    fun v hv => (stepwise_looksUp.compositional.validations
      Context.looksUp_witnessed_iff hnotNil hunbound hv).1
  have hregion : Context.LooksUp fun c => if c.contains "region" then .fail known else .ok := by
    intro c d h
    simp only [h.contains]
  have hnoted : ∀ v, (tenant c v).NotesOnly (· = "seen") := by
    intro v text ht
    have hc : tenant c v = ⟨[.noted "seen"], .error known⟩ := rfl
    rw [hc] at ht
    cases List.mem_singleton.mp ht
    rfl
  have hquiet : ∀ v, (limit c v).NotesOnly (· = "seen") := fun v => .silent _
  have hhanded : ∀ v, v.Validators (fun w => (w c).NotesOnly (· = "seen")) →
      (handOn c v).NotesOnly (· = "seen") :=
    fun v hv => ((stepwise_notesOnly c _).compositional.validations
      (fun _ => Run.NotesOnly.witnessed_iff) hnotNil hunbound hv).1
  have hplain : Run.NotesOnly (· = "seen")
      (if c.contains "region" then .fail known else .ok) := .silent _
  obtain ⟨hr, hb⟩ := hcustoms hlimit htenant hhandOn
  obtain ⟨hrn, hbn⟩ := hcustoms (P := fun w => (w c).NotesOnly (· = "seen")) hquiet hnoted hhanded
  have hv := hvalidators hregion
  have hvn := hvalidators (P := fun w => (w c).NotesOnly (· = "seen")) hplain
  have hnear : c.Nearest "limit" raised := ⟨[], _, _, rfl, by simp, rfl⟩
  have hfree : ∀ s ∈ c.scopes, SortedEntries.get? "x" s = none :=
    Context.find?_eq_none_iff.mp rfl
  obtain ⟨⟨hget, hnone, _⟩, hflat, hsame, hnotes⟩ := chain_answers_as_flat c
  exact ⟨hnear, hget _ _ hnear count, hget _ _ hnear flag, hfree, hnone _ hfree count, hflat,
    hr, hb, hv, hrn, hbn, hvn, hseen, hunseen, (hsame c.flat hflat).2 rules bindings v hr hb hv,
    hnotes _ rules bindings v hrn hbn hvn⟩

end Verdict
