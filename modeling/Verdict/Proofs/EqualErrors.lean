import Mathlib.Data.List.Perm.Subperm
import Verdict.Errors.ErrorTree
import Verdict.Proofs.EqualDocuments
import Verdict.Proofs.LastWrite

/-! Equal errors. On errors that the builders make equality is an equivalence, and equal ones
without floating-point parameters cannot be told apart by code, message or tree of messages. -/
namespace Verdict

namespace Violation
variable {u v w : Violation} {name : String} {j : Json} {params : List (String × Json)}

/-- What the builders make: parameters are added one by one, in any order and over others. -/
inductive Built : Violation → Prop
  | plain (code template : String) : Built (.plain code template)
  | withCode {v : Violation} (h : Built v) (code : String) : Built (v.withCode code)
  | withTemplate {v : Violation} (h : Built v) (template : String) : Built (v.withTemplate template)
  | withParam {v : Violation} (h : Built v) (name : String) {j : Json}
      (hj : j.Finite) : Built (v.withParam name j)
  | withParams {v : Violation} (h : Built v) {params : List (String × Json)}
      (hp : ∀ p ∈ params, p.2.Finite) : Built (v.withParams params)

/-- The parameters have different names and are documents of finite numbers. -/
structure Regular (v : Violation) : Prop where
  names : (v.params.map Prod.fst).Nodup
  finite : ∀ p ∈ v.params, p.2.Finite

theorem mem_setParam {p : String × Json} (h : p ∈ setParam name j params) :
    p = (name, j) ∨ p ∈ params := by
  induction params with
  | nil => exact .inl (List.mem_singleton.mp h)
  | cons q rest ih =>
    rw [setParam] at h
    split at h <;> rename_i hq <;> rcases List.mem_cons.mp h with h | h
    · exact .inl (by rw [h, beq_iff_eq.mp hq])
    · exact .inr (List.mem_cons_of_mem _ h)
    · exact .inr (h ▸ List.mem_cons_self)
    · exact (ih h).imp_right (List.mem_cons_of_mem _)

/-- Only a new name is added to the names, at their end. -/
theorem names_setParam : (setParam name j params).map Prod.fst =
    if name ∈ params.map Prod.fst then params.map Prod.fst
    else params.map Prod.fst ++ [name] := by
  induction params with
  | nil => rfl
  | cons q rest ih =>
    rw [setParam]
    by_cases hq : q.1 = name
    · simp [hq]
    · simp only [beq_iff_eq, hq, if_false, List.map_cons, ih, List.mem_cons, Ne.symm hq, false_or]
      split <;> rfl

theorem Regular.withParam (h : v.Regular) (hj : j.Finite) :
    (v.withParam name j).Regular := by
  refine ⟨?_, fun p hp => ?_⟩
  · rw [Violation.withParam, names_setParam]
    split <;> rename_i hn
    · exact h.names
    · rw [← List.concat_eq_append]
      exact h.names.concat hn
  · rcases mem_setParam hp with rfl | hp
    · exact hj
    · exact h.finite p hp

theorem Built.regular (h : v.Built) : v.Regular := by
  induction h with
  | plain code template => exact ⟨.nil, fun p hp => (List.not_mem_nil hp).elim⟩
  | withCode _ _ ih => exact ⟨ih.names, ih.finite⟩
  | withTemplate _ _ ih => exact ⟨ih.names, ih.finite⟩
  | withParam _ name hj ih => exact ih.withParam hj
  | @withParams v _ params hp _ =>
    have hempty : Regular { v with params := [] } :=
      ⟨.nil, fun p hp => (List.not_mem_nil hp).elim⟩
    rw [Violation.withParams]
    generalize { v with params := [] } = v at hempty ⊢
    induction params generalizing v with
    | nil => exact hempty
    | cons p rest ih =>
      apply ih
      · exact fun q hq => hp q (List.mem_cons_of_mem _ hq)
      · exact hempty.withParam (hp p List.mem_cons_self)

/-- Equality looks every parameter of one violation up in the other. -/
theorem isEqual_iff : v.isEqual w = true ↔ v.code = w.code ∧ v.template = w.template ∧
    v.params.length = w.params.length ∧
      ∀ p ∈ v.params, ∃ j, w.param? p.1 = some j ∧ j.Equal p.2 := by
  simp only [isEqual, Bool.and_eq_true, beq_iff_eq, List.all_eq_true, and_assoc]
  refine and_congr_right fun _ => and_congr_right fun _ => and_congr_right fun _ => ?_
  refine forall₂_congr fun p _ => ?_
  cases w.param? p.1 <;> simp

theorem mem_of_param? (h : v.param? name = some j) : (name, j) ∈ v.params := by
  obtain ⟨before, after, hsplit, _⟩ := List.lookup_eq_some_iff.mp h
  rw [hsplit]
  exact List.mem_append_right _ List.mem_cons_self

theorem param?_eq_none_iff : v.param? name = none ↔ name ∉ v.params.map Prod.fst := by
  simp only [param?, List.lookup_eq_none_iff, bne_iff_ne, List.mem_map, not_exists, not_and]
  exact forall₂_congr fun p _ => ne_comm

/-- Among different names each has the value that stands beside it. -/
theorem param?_eq_some_iff (h : (v.params.map Prod.fst).Nodup) :
    v.param? name = some j ↔ (name, j) ∈ v.params := by
  refine ⟨mem_of_param?, fun hm => ?_⟩
  obtain ⟨k, hk⟩ : ∃ k, v.param? name = some k := by
    refine Option.ne_none_iff_exists'.mp fun hn => ?_
    exact param?_eq_none_iff.mp hn (List.mem_map_of_mem hm)
  have heq := List.inj_on_of_nodup_map h hm (mem_of_param? hk) rfl
  rw [hk, (Prod.mk.inj heq).2]

theorem isEqual_self (h : v.Regular) : v.isEqual v = true := by
  refine isEqual_iff.mpr ⟨rfl, rfl, rfl, fun p hp => ?_⟩
  exact ⟨p.2, (param?_eq_some_iff h.names).mpr hp, Json.equal_refl (h.finite p hp)⟩

theorem isEqual_trans (h : u.isEqual v = true) (k : v.isEqual w = true) : u.isEqual w = true := by
  obtain ⟨hcode, htemplate, hlength, hparams⟩ := isEqual_iff.mp h
  obtain ⟨kcode, ktemplate, klength, kparams⟩ := isEqual_iff.mp k
  refine isEqual_iff.mpr ⟨hcode.trans kcode, htemplate.trans ktemplate,
    hlength.trans klength, fun p hp => ?_⟩
  obtain ⟨i, hi, hip⟩ := hparams p hp
  obtain ⟨j, hj, hji⟩ := kparams _ (mem_of_param? hi)
  exact ⟨j, hj, Json.equal_trans hji hip⟩

/-- Different names, all found among equally many: the names are the same. -/
theorem names_perm_of_isEqual (hv : v.Regular) (h : v.isEqual w = true) :
    (v.params.map Prod.fst).Perm (w.params.map Prod.fst) := by
  obtain ⟨_, _, hlength, hparams⟩ := isEqual_iff.mp h
  have hsub : v.params.map Prod.fst ⊆ w.params.map Prod.fst := by
    intro name hname
    obtain ⟨p, hp, rfl⟩ := List.mem_map.mp hname
    obtain ⟨j, hj, _⟩ := hparams p hp
    exact List.mem_map.mpr ⟨_, mem_of_param? hj, rfl⟩
  exact (hv.names.subperm hsub).perm_of_length_le (by simp [hlength])

/-- Parameters of equal violations are equal name by name. -/
theorem param?_rel_of_isEqual (hv : v.Regular) (h : v.isEqual w = true) (name : String) :
    Option.Rel Json.Equal (v.param? name) (w.param? name) := by
  obtain ⟨_, _, _, hparams⟩ := isEqual_iff.mp h
  cases hj : v.param? name with
  | none =>
    have hw : name ∉ w.params.map Prod.fst := by
      rw [← (names_perm_of_isEqual hv h).mem_iff]
      exact param?_eq_none_iff.mp hj
    rw [param?_eq_none_iff.mpr hw]
    exact .none
  | some j =>
    obtain ⟨k, hk, hkj⟩ := hparams _ (mem_of_param? hj)
    rw [hk]
    exact .some (Json.equal_symm hkj)

theorem isEqual_symm (hv : v.Regular) (hw : w.Regular) (h : v.isEqual w = true) :
    w.isEqual v = true := by
  obtain ⟨hcode, htemplate, hlength, _⟩ := isEqual_iff.mp h
  refine isEqual_iff.mpr ⟨hcode.symm, htemplate.symm, hlength.symm, fun p hp => ?_⟩
  have hrel := param?_rel_of_isEqual hv h p.1
  rw [(param?_eq_some_iff hw.names).mpr hp] at hrel
  generalize v.param? p.1 = o at hrel ⊢
  cases hrel with
  | some hjk => exact ⟨_, rfl, hjk⟩

/-- The message depends on the parameters only by what their names stand for. -/
theorem message_congr (ht : v.template = w.template)
    (hp : ∀ name, v.param? name = w.param? name) : v.message = w.message := by
  have hpiece : MessageTemplate.Piece.render v.params = MessageTemplate.Piece.render w.params := by
    funext piece
    cases piece with
    | literal c => rfl
    | unclosed inner => rfl
    | action inner =>
      rw [MessageTemplate.Piece.render, MessageTemplate.Piece.render]
      cases MessageTemplate.name? inner with
      | none => rfl
      | some name => exact congrArg MessageTemplate.paramText (hp name)
  rw [message, message, MessageTemplate.render, MessageTemplate.render, ht, hpiece]

theorem message_eq_of_isEqual (hv : v.Regular) (hf : ∀ p ∈ v.params, p.2.FloatFree)
    (h : v.isEqual w = true) : v.message = w.message := by
  refine message_congr (isEqual_iff.mp h).2.1 fun name => ?_
  have hrel := param?_rel_of_isEqual hv h name
  cases hj : v.param? name with
  | none =>
    rw [hj] at hrel
    generalize w.param? name = o at hrel ⊢
    cases hrel
    rfl
  | some j =>
    rw [hj] at hrel
    generalize w.param? name = o at hrel ⊢
    cases hrel with
    | some hjk =>
      have hfree : j.FloatFree := hf _ (mem_of_param? hj)
      rw [Json.eq_of_equal hfree hjk]

end Violation

/-- Every violation in an error, at any depth of errors by key, has the property. -/
inductive Error.Violations (P : Violation → Prop) : Error → Prop
  | violation {v : Violation} (h : P v) : Violations P (.violation v)
  | fields {es : KeyedErrors} (h : ∀ key e, (key, some e) ∈ es → Violations P e) :
      Violations P (.fields es)
  | internal (fault : Fault Error) : Violations P (.internal fault)

theorem KeyedErrors.mem_of_filter {es kept : KeyedErrors} (hk : es.filter = some kept)
    {p : String × Option Error} (hp : p ∈ kept) : p ∈ es := by
  rw [filter] at hk
  split at hk
  · cases hk
  · rename_i heq
    cases hk
    rw [← heq] at hp
    exact List.mem_of_mem_filter hp

namespace Error.Violations
variable {P : Violation → Prop} {es new kept : KeyedErrors} {key : String} {e : Error}

theorem entry (h : (Error.fields es).Violations P) (he : (key, some e) ∈ es) : e.Violations P := by
  cases h with
  | fields h => exact h key e he

theorem set {o : Option Error} (h : (Error.fields es).Violations P)
    (ho : ∀ e, o = some e → e.Violations P) : (Error.fields (es.set key o)).Violations P := by
  refine .fields fun k e he => ?_
  rcases SortedEntries.mem_insert he with heq | he
  · exact ho e (Prod.mk.inj heq).2.symm
  · exact h.entry he

theorem insert (h : (Error.fields es).Violations P) (he : e.Violations P) :
    (Error.fields (es.insert key e)).Violations P :=
  h.set fun _ hf => Option.some.inj hf ▸ he

theorem merge (h : (Error.fields es).Violations P) (hn : (Error.fields new).Violations P) :
    (Error.fields (es.merge new)).Violations P := by
  refine .fields fun k e he => ?_
  rcases SortedEntries.mem_insertAll he with he | he
  · exact hn.entry he
  · exact h.entry he

theorem filter (h : (Error.fields es).Violations P) (hk : es.filter = some kept) :
    (Error.fields kept).Violations P :=
  .fields fun _ _ he => h.entry (KeyedErrors.mem_of_filter hk he)

end Error.Violations

mutual

/-- Errors that the builders make. A fault may carry anything. -/
inductive Error.Built : Error → Prop
  | violation {v : Violation} (h : v.Built) : Error.Built (.violation v)
  | fields {es : KeyedErrors} (h : KeyedErrors.Built es) : Error.Built (.fields es)
  | internal (fault : Fault Error) : Error.Built (.internal fault)

/-- Errors by key that the builders make, absent entries among them. -/
inductive KeyedErrors.Built : KeyedErrors → Prop
  | empty : KeyedErrors.Built .empty
  | set {es : KeyedErrors} (h : KeyedErrors.Built es) (key : String) {o : Option Error}
      (ho : ∀ e, o = some e → Error.Built e) : KeyedErrors.Built (es.set key o)
  | insert {es : KeyedErrors} (h : KeyedErrors.Built es) (key : String) {e : Error}
      (he : Error.Built e) : KeyedErrors.Built (es.insert key e)
  | merge {es new : KeyedErrors} (h : KeyedErrors.Built es) (hn : KeyedErrors.Built new) :
      KeyedErrors.Built (es.merge new)
  | filter {es kept : KeyedErrors} (h : KeyedErrors.Built es) (hk : es.filter = some kept) :
      KeyedErrors.Built kept
  | ofList {ws : List (String × Option Error)}
      (h : ∀ key e, (key, some e) ∈ ws → Error.Built e) : KeyedErrors.Built (.ofList ws)

end

mutual

/-- The builders keep the names of parameters different at every depth. -/
theorem Error.Built.regular {e : Error} : e.Built → e.Violations Violation.Regular
  | .violation h => .violation h.regular
  | .fields h => h.regular
  | .internal fault => .internal fault

theorem KeyedErrors.Built.regular {es : KeyedErrors} :
    es.Built → (Error.fields es).Violations Violation.Regular
  | .empty => .fields fun _ _ he => (List.not_mem_nil he).elim
  | .set h _ ho => h.regular.set fun e he => (ho e he).regular
  | .insert h _ he => h.regular.insert he.regular
  | .merge h hn => h.regular.merge hn.regular
  | .filter h hk => h.regular.filter hk
  | .ofList h => .fields fun key e he => by
    have hw := (SortedEntries.mem_insertAll he).resolve_right List.not_mem_nil
    exact (h key e hw).regular

end

namespace Error
variable {d e f : Error}

/-- Equality as a relation. -/
abbrev Equal (e f : Error) : Prop := e.isEqual f = true

/-- Entries of one key are both absent, or both present and equal. -/
theorem entriesEqual_iff {es fs : KeyedErrors} : entriesEqual es fs = true ↔
    List.Forall₂ (fun p q => p.1 = q.1 ∧ Option.Rel Equal p.2 q.2) es fs := by
  induction es generalizing fs with
  | nil => cases fs <;> simp [entriesEqual]
  | cons p es ih =>
    obtain ⟨key, o⟩ := p
    cases fs with
    | nil => cases o <;> simp [entriesEqual]
    | cons q fs =>
      obtain ⟨key', o'⟩ := q
      cases o <;> cases o' <;> simp [entriesEqual, ih, and_assoc]

theorem equal_refl (he : e.Violations Violation.Regular) : Equal e e := by
  induction he with
  | violation h => exact Violation.isEqual_self h
  | internal fault => exact beq_self_eq_true (Error.internal fault).message
  | fields _ ih =>
    refine entriesEqual_iff.mpr (List.forall₂_same.mpr ?_)
    rintro ⟨key, o⟩ hp
    cases o with
    | none => exact ⟨rfl, .none⟩
    | some e => exact ⟨rfl, .some (ih key e hp)⟩

theorem equal_symm (he : e.Violations Violation.Regular) (hf : f.Violations Violation.Regular)
    (h : Equal e f) : Equal f e := by
  induction he generalizing f with
  | violation hv =>
    cases hf with
    | violation hw => exact Violation.isEqual_symm hv hw h
    | _ => cases h
  | internal fault =>
    cases hf with
    | internal fault' => exact beq_iff_eq.mpr (beq_iff_eq.mp h).symm
    | _ => cases h
  | fields _ ih =>
    cases hf with
    | fields hfs =>
      refine entriesEqual_iff.mpr (List.Forall₂.flip ?_)
      refine forall₂_imp_of_mem ?_ (entriesEqual_iff.mp h)
      rintro ⟨key, o⟩ hp ⟨key', o'⟩ hq ⟨hkey, hrel⟩
      refine ⟨hkey.symm, ?_⟩
      cases hrel with
      | none => exact .none
      | some hef => exact .some (ih key _ hp (hfs key' _ hq) hef)
    | _ => cases h

theorem equal_trans (he : e.Violations Violation.Regular) (h : Equal e f) (k : Equal f d) :
    Equal e d := by
  induction he generalizing f d with
  | violation _ =>
    cases f with
    | violation w =>
      cases d with
      | violation u => exact Violation.isEqual_trans h k
      | _ => cases k
    | _ => cases h
  | internal fault =>
    cases f with
    | internal fault' =>
      cases d with
      | internal fault'' => exact beq_iff_eq.mpr ((beq_iff_eq.mp h).trans (beq_iff_eq.mp k))
      | _ => cases k
    | _ => cases h
  | fields _ ih =>
    cases f with
    | fields fs =>
      cases d with
      | fields ds =>
        refine entriesEqual_iff.mpr (forall₂_trans_of_mem ?_
          (entriesEqual_iff.mp h) (entriesEqual_iff.mp k))
        rintro ⟨key, o⟩ hp ⟨_, o'⟩ ⟨_, o''⟩ ⟨hkey, hrel⟩ ⟨hkey', hrel'⟩
        refine ⟨hkey.trans hkey', ?_⟩
        cases hrel with
        | none => exact hrel'
        | some hef =>
          cases hrel' with
          | some hfd => exact .some (ih key _ hp hef hfd)
      | _ => cases k
    | _ => cases h

/-- The three ways in which a validation fails. -/
inductive Variant where
  | violation | fields | internal
deriving DecidableEq

def variant : Error → Variant
  | .violation _ => .violation
  | .fields _ => .fields
  | .internal _ => .internal

/-- All that is shown of two errors is the same. -/
structure Indistinguishable (e f : Error) : Prop where
  variant : e.variant = f.variant
  code : e.code? = f.code?
  message : e.message = f.message
  json : e.toJson = f.toJson

/-- No parameter holds a floating-point number. -/
abbrev FloatFree (e : Error) : Prop := e.Violations fun v => ∀ p ∈ v.params, p.2.FloatFree

theorem messages_cons_congr {key : String} {rest rest' : KeyedErrors} (h : Indistinguishable e f)
    (hr : messages rest = messages rest') :
    messages ((key, some e) :: rest) = messages ((key, some f) :: rest') := by
  have hmessage := h.message
  cases e <;> cases f <;> try cases h.variant
  · simp only [messages, hmessage, hr]
  · have hclosed : closeList (messages _) = closeList (messages _) := hmessage
    simp only [messages, hclosed, hr]
  · simp only [messages, hmessage, hr]

/-- Errors by key show what their entries show. -/
theorem indistinguishable_fields {es fs : KeyedErrors}
    (h : List.Forall₂ (fun p q => p.1 = q.1 ∧ Option.Rel Indistinguishable p.2 q.2) es fs) :
    Indistinguishable (.fields es) (.fields fs) := by
  have hshown : messages es = messages fs ∧ jsonMembers es = jsonMembers fs := by
    induction h with
    | nil => exact ⟨rfl, rfl⟩
    | @cons p q es fs hpq _ ih =>
      obtain ⟨key, o⟩ := p
      obtain ⟨_, o'⟩ := q
      obtain ⟨rfl, hrel⟩ := hpq
      cases hrel with
      | none => exact ih
      | some hef =>
        refine ⟨messages_cons_congr hef ih.1, ?_⟩
        simp only [jsonMembers, hef.json, ih.2]
  refine ⟨rfl, rfl, ?_, ?_⟩
  · exact congrArg closeList hshown.1
  · exact congrArg Json.object hshown.2

theorem indistinguishable_of_equal (he : e.Violations Violation.Regular) (hff : e.FloatFree)
    (h : Equal e f) : Indistinguishable e f := by
  induction he generalizing f with
  | violation hv =>
    cases f with
    | violation w =>
      cases hff with
      | violation hfree =>
        have hmessage := Violation.message_eq_of_isEqual hv hfree h
        exact ⟨rfl, congrArg some (Violation.isEqual_iff.mp h).1, hmessage,
          congrArg Json.string hmessage⟩
    | _ => cases h
  | internal fault =>
    cases f with
    | internal fault' =>
      have hmessage := beq_iff_eq.mp h
      exact ⟨rfl, rfl, hmessage, congrArg Json.string hmessage⟩
    | _ => cases h
  | fields _ ih =>
    cases f with
    | fields fs =>
      cases hff with
      | fields hfree =>
        refine indistinguishable_fields (forall₂_imp_of_mem ?_ (entriesEqual_iff.mp h))
        rintro ⟨key, o⟩ hp ⟨_, o'⟩ _ ⟨hkey, hrel⟩
        refine ⟨hkey, ?_⟩
        cases hrel with
        | none => exact .none
        | some hef => exact .some (ih key _ hp (hfree key _ hp) hef)
    | _ => cases h

/-- Equality of errors that the builders make is an equivalence. Equal ones are of the same
variant and have the same code, message and tree of messages, unless a parameter holds a
floating-point number. -/
theorem equal_errors_indistinguishable :
    Equivalence (fun e f : {e : Error // e.Built} => Equal e.1 f.1) ∧
      ∀ e f, e.Built → e.FloatFree → Equal e f → Indistinguishable e f := by
  refine ⟨⟨?_, ?_, ?_⟩, ?_⟩
  · intro e
    exact equal_refl e.2.regular
  · intro e f hef
    exact equal_symm e.2.regular f.2.regular hef
  · intro e f d hef hfd
    exact equal_trans e.2.regular hef hfd
  · intro e f he hfree hef
    exact indistinguishable_of_equal he.regular hfree hef

/-- The parameters stand in another order, one of them written over another, beside an absent
entry and a fault that only reads the same. -/
theorem equal_errors_indistinguishable_of_reordered :
    let one : Json := .number (.natural 1)
    let v := ((Violation.plain "c" "m").withParam "x" one).withParam "y" (.string "s")
    let w := (Violation.plain "c" "m").withParams [("y", .null), ("x", one), ("y", .string "s")]
    let errors (u : Violation) (fault : Fault Error) : Error :=
      .fields (((KeyedErrors.empty.set "b" none).insert "a" (.violation u)).insert "c"
        (.fields (KeyedErrors.empty.insert "0" (.internal fault))))
    let e := errors v .notMap
    let f := errors w (.text "only a map can be validated")
    v.params ≠ w.params ∧ e.Built ∧ f.Built ∧ e.FloatFree ∧ Equal e f ∧ Equal f e ∧
      Indistinguishable e f := by
  intro one v w errors e f
  have hone : one.Finite := .number nofun
  have hs : (Json.string "s").Finite := .string "s"
  have hv : v.Built := ((Violation.Built.plain "c" "m").withParam "x" hone).withParam "y" hs
  have hw : w.Built := by
    refine (Violation.Built.plain "c" "m").withParams ?_
    simp [hone, hs, Json.Numbers.null]
  have hbuilt {u : Violation} (hu : u.Built) (fault : Fault Error) : (errors u fault).Built := by
    have hinner : (KeyedErrors.empty.insert "0" (.internal fault)).Built :=
      KeyedErrors.Built.empty.insert "0" (.internal fault)
    have habsent : (KeyedErrors.empty.set "b" none).Built := KeyedErrors.Built.empty.set "b" nofun
    exact .fields ((habsent.insert "a" (.violation hu)).insert "c" (.fields hinner))
  have hfree : e.FloatFree := by
    have hparams : ∀ p ∈ v.params, p.2.FloatFree := by
      have hfloat : one.FloatFree := .number (by rintro ⟨x, ⟨⟩⟩)
      have htext : (Json.string "s").FloatFree := .string "s"
      simp [v, Violation.withParam, Violation.setParam, Violation.plain, hfloat, htext]
    have hempty : (Error.fields KeyedErrors.empty).FloatFree := .fields nofun
    have hinner : (Error.fields (KeyedErrors.empty.insert "0" (.internal .notMap))).FloatFree :=
      hempty.insert (.internal _)
    have habsent : (Error.fields (KeyedErrors.empty.set "b" none)).FloatFree := hempty.set nofun
    exact (habsent.insert (.violation hparams)).insert hinner
  have hef : Equal e f := by
    subst e f errors v w one
    rfl
  have hfe : Equal f e :=
    equal_errors_indistinguishable.1.symm (x := ⟨e, hbuilt hv _⟩) (y := ⟨f, hbuilt hw _⟩) hef
  refine ⟨?_, hbuilt hv _, hbuilt hw _, hfree, hef, hfe, ?_⟩
  · simp [v, w, Violation.withParam, Violation.withParams, Violation.setParam, Violation.plain]
  · exact equal_errors_indistinguishable.2 e f (hbuilt hv _) hfree hef

end Error
end Verdict
