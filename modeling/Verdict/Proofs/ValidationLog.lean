import Verdict.Proofs.TraversalLog

/-! Every validation logs its moves, if the code from outside that it runs does. -/
namespace Verdict

namespace Outside

/-- A check from outside logs its moves. -/
abbrev CheckLogs (outside : Outside) (check : Check) : Prop :=
  ∀ c v, outside.subject v → (check c v).LogsWithin [] (outside.check check c v)

/-- A validator logs its moves. -/
abbrev ValidatorLogs (outside : Outside) (validator : Validator) : Prop :=
  ∀ c, (validator c).LogsWithin [] (outside.validator validator c)

/-- A value that may be handed to code from outside and whose own validators log their moves. -/
abbrev ValueLogs (outside : Outside) (v : Value) : Prop :=
  outside.subject v ∧ v.Validators outside.ValidatorLogs

theorem inherited_valueLogs (outside : Outside) : Value.Inherited outside.ValueLogs :=
  fun v hv u hu => ⟨outside.inherited v hv.1 u hu, hv.2.part hu⟩

end Outside

section Steps
variable {outside : Outside} {c : Context} {v : Value}

private theorem logs_witnessed {r : Run} {moves : List Move} (h : r.LogsWithin [] moves) :
    r.witnessed.LogsWithin [] moves := h.of_log (Run.log_witnessed r) rfl

private theorem ownValidation_logs
    (hv : ∀ w, v.validator? = some w → outside.ValidatorLogs w) :
    (v.ownValidation c).LogsWithin [] (Tour.ofOwn outside c v) := by
  rw [Value.ownValidation, Tour.ofOwn]
  cases hw : v.validator? with
  | some w => exact logs_witnessed (hv w hw c)
  | none => exact .silent rfl (.inl rfl)

private theorem collect_entries_logs {failFast : Bool} {check : String × Value → Run}
    {moves : String × Value → List Move} {es : List (String × Value)}
    (h : ∀ e ∈ es, (check e).LogsWithin [] (moves e)) :
    (collect failFast (underKey Prod.fst) check [] es).LogsWithin []
      (Tour.loop failFast check (es.map fun e => (e, moves e))) := by
  have hitems : (es.map fun e => (e, moves e)).map Prod.fst = es := by
    rw [List.map_map]
    exact List.map_id es
  have hall : ∀ i ∈ es.map fun e => (e, moves e), (check i.1).LogsWithin [] i.2 := by
    rw [List.forall_mem_map]
    exact h
  have hcollect := Run.LogsWithin.collect failFast (underKey Prod.fst) hall []
  rwa [hitems] at hcollect

private theorem validateSelf_logs (hv : v.Validators outside.ValidatorLogs) :
    (v.validateSelf c).LogsWithin [] (Tour.ofSelf outside c v) := by
  rw [Value.validateSelf, Tour.ofSelf]
  split
  · apply collect_entries_logs
    intro e he
    exact ownValidation_logs fun w hw => (hv.part (Value.mem_parts_of_mem_entries he)).own hw
  · exact ownValidation_logs fun w hw => hv.own hw

private theorem checkAll_logs {rules : List Rule}
    (h : ∀ r ∈ rules, (r.check c v).LogsWithin [] (r.tour outside c v)) :
    (Rule.checkAll rules c v).LogsWithin [] (Rule.tourAll outside rules c v) := by
  induction rules with
  | nil => exact .silent rfl (.inl rfl)
  | cons r rs ih =>
    obtain ⟨hr, hrs⟩ := List.forall_mem_cons.mp h
    simp only [Rule.checkAll, Rule.tourAll]
    split
    · exact .silent rfl (.inl rfl)
    · exact hr.andThen (ih hrs)

private theorem validate_logs {rules : List Rule} (hv : v.Validators outside.ValidatorLogs)
    (h : ∀ r ∈ rules, (r.check c v).LogsWithin [] (r.tour outside c v)) :
    (Rule.validate rules c v).LogsWithin [] (Rule.validateTour outside rules c v) := by
  have hall := checkAll_logs h
  simp only [Rule.validate, Check.afterSelf, Rule.validateTour, Tour.afterSelf]
  split
  · exact hall
  · exact (validateSelf_logs hv).andThen hall

private theorem each_logs {failFast : Bool} {check : Check} {tour : Tour}
    (h : ∀ u ∈ v.parts, (check c u).LogsWithin [] (tour c u)) :
    (Check.each failFast check c v).LogsWithin [] (Tour.each failFast check tour c v) := by
  have hentries : (collect failFast (underKey Prod.fst) (fun e => check c e.2) []
      v.entries).LogsWithin [] (Tour.each failFast check tour c v) :=
    collect_entries_logs fun e he => h e.2 (Value.mem_parts_of_mem_entries he)
  have hnone (hk : v.kind ≠ .collection) : Tour.each failFast check tour c v = [] := by
    cases v <;> first | rfl | exact absurd rfl hk
  simp only [Check.each]
  split <;> rename_i hk
  · rw [hnone (by simp [hk])]
    exact .silent rfl (.inl rfl)
  · exact hentries
  · rw [hnone hk]
    exact .silent rfl (.inl rfl)

private theorem bound_logs {kind : KeyKind} {entries : List (MapKey × Value)} {n m : Nat}
    {b : KeyBinding (Check × Tour)}
    (h : ∀ u ∈ entries.map Prod.snd, (b.rules.1 c u).LogsWithin [] (b.rules.2 c u)) :
    (b.checked.check kind entries c).LogsWithin [.map n m] (b.moves kind entries c) := by
  rw [KeyBinding.check, KeyBinding.checked, KeyBinding.moves]
  cases hform : b.key.coerce? kind with
  | none => exact .silent rfl (.inr rfl)
  | some key =>
    dsimp only
    cases hu : SortedEntries.get? key entries with
    | some u =>
      exact (h u (SortedEntries.mem_values_of_get? hu)).turn fun _ => .key n m key.render
    | none => cases b.optional <;> exact .passBy rfl rfl _ _

private theorem mapKeys_logs {bindings : List (KeyBinding (Check × Tour))} {allowExtra : Bool}
    (h : ∀ b ∈ bindings, ∀ u ∈ v.parts, (b.rules.1 c u).LogsWithin [] (b.rules.2 c u)) :
    (Check.mapKeys (bindings.map KeyBinding.checked) allowExtra c v).LogsWithin []
      (Tour.mapKeys bindings allowExtra c v) := by
  cases v with
  | map kind entries =>
    have hitems : ∀ i ∈ Tour.keyItems kind entries c bindings allowExtra,
        (i.1.check kind entries c).LogsWithin [.map bindings.length entries.length] i.2 := by
      rw [Tour.keyItems, List.forall_mem_append, List.forall_mem_map, List.forall_mem_map]
      exact ⟨fun b hb => bound_logs (h b hb), fun k _ => .silent rfl (.inr rfl)⟩
    have hrun : Check.mapKeys (bindings.map KeyBinding.checked) allowExtra c (.map kind entries) =
        (collect false (underKey KeyItem.label) (KeyItem.check kind entries c) []
          ((Tour.keyItems kind entries c bindings allowExtra).map Prod.fst)).after
            [.mapOpened bindings.length entries.length] := by
      simp only [Check.mapKeys, Tour.keyItems, List.length_map, List.map_append, List.map_map]
      rfl
    rw [Tour.mapKeys, hrun]
    exact (Run.LogsWithin.collect false (underKey KeyItem.label) hitems []).within
  | _ => exact .silent rfl (.inl rfl)

private theorem fieldItem_logs {name : String} {n : Nat} {p : FieldBinding (List Rule) × Nat}
    (h : ∀ f key, v.resolve? p.1.path = some (f, key) →
      (Rule.validate p.1.rules c f.value).LogsWithin []
        (Rule.validateTour outside p.1.rules c f.value)) :
    (FieldItem.check name c ⟨p.2, ⟨p.1.path, Rule.validate p.1.rules⟩,
      v.resolve? p.1.path⟩).LogsWithin [.struct name n] (Rule.fieldMoves outside c v p) := by
  rw [FieldItem.check, Rule.fieldMoves]
  cases hf : v.resolve? p.1.path with
  | none => exact .missing name n p.2
  | some t =>
    obtain ⟨f, key⟩ := t
    exact (h f key hf).turn fun _ => .field name n p.1.path

private theorem validateStruct_logs {bindings : List (FieldBinding (List Rule))}
    (h : ∀ b ∈ bindings, ∀ f key, v.resolve? b.path = some (f, key) →
      (Rule.validate b.rules c f.value).LogsWithin []
        (Rule.validateTour outside b.rules c f.value)) :
    (Rule.validateStruct bindings c v).LogsWithin [] (Rule.structTour outside bindings c v) := by
  cases v with
  | struct name fields validator =>
    have hitems : ∀ i ∈ Rule.fieldItems outside c (.struct name fields validator) bindings,
        (i.1.check name c).LogsWithin [.struct name bindings.length] i.2 := by
      rw [Rule.fieldItems, List.forall_mem_map]
      exact fun p hp => fieldItem_logs (h p.1 (List.fst_mem_of_mem_zipIdx hp))
    have hrun : Rule.validateStruct bindings c (.struct name fields validator) =
        (collect false FieldItem.write (FieldItem.check name c) []
          ((Rule.fieldItems outside c (.struct name fields validator) bindings).map
            Prod.fst)).after [.structOpened name bindings.length] := by
      simp only [Rule.validateStruct, Check.structFields, Rule.fieldItems, List.length_map,
        List.zipIdx_map, List.map_map]
      rfl
    rw [Rule.structTour, hrun]
    exact (Run.LogsWithin.collect false FieldItem.write hitems []).within
  | _ => exact .silent rfl (.inl rfl)

end Steps

section Rules
variable {outside : Outside}

theorem Rule.keyTours_eq_map (keys : List (KeyBinding (List Rule))) :
    keyTours outside keys = keys.map fun b =>
      ⟨b.key, (validate b.rules, validateTour outside b.rules), b.optional⟩ := by
  induction keys with
  | nil => rfl
  | cons b bs ih =>
    rw [keyTours, ih]
    rfl

theorem Rule.check_logs {r : Rule} (hr : r.Customs outside.CheckLogs) {v : Value}
    (hv : outside.ValueLogs v) (c : Context) :
    (r.check c v).LogsWithin [] (r.tour outside c v) := by
  induction hr generalizing v with
  | leaf l => exact .silent rfl (.inl rfl)
  | custom ends h => exact logs_witnessed (h c v hv.1)
  | skip active => exact .silent rfl (.inl rfl)
  | choose condition _ _ ihr iho =>
    cases condition with
    | true => exact checkAll_logs fun r hr => ihr r hr hv
    | false => exact checkAll_logs fun r hr => iho r hr hv
  | each failFast _ ih =>
    apply each_logs
    intro u hu
    have hpart := outside.inherited_valueLogs v hv u hu
    exact validate_logs hpart.2 fun r hr => ih r hr hpart
  | @map keys allowExtra _ ih =>
    have hchecked : (keyTours outside keys).map KeyBinding.checked =
        keys.map fun b => ⟨b.key, validate b.rules, b.optional⟩ := by
      rw [keyTours_eq_map, List.map_map]
      rfl
    rw [check_map, ← hchecked, tour]
    apply mapKeys_logs
    intro b hb u hu
    rw [keyTours_eq_map] at hb
    obtain ⟨k, hk, rfl⟩ := List.mem_map.mp hb
    have hpart := outside.inherited_valueLogs v hv u hu
    exact validate_logs hpart.2 fun r hr => ih k hk r hr hpart
  | wrapped _ ih => exact ih hv

end Rules

/-- A validation that code from outside calls, with the moves that it makes. -/
inductive Called (outside : Outside) (P : Check → Prop) (Q : Validator → Prop) :
    Run → List Move → Prop
  | rules {rules : List Rule} {c : Context} {v : Value} (hr : ∀ r ∈ rules, r.Customs P)
      (hs : outside.subject v) (hv : v.Validators Q) :
      Called outside P Q (Rule.checkAll rules c v) (Rule.tourAll outside rules c v)
  | value {rules : List Rule} {c : Context} {v : Value} (hr : ∀ r ∈ rules, r.Customs P)
      (hs : outside.subject v) (hv : v.Validators Q) :
      Called outside P Q (Rule.validate rules c v) (Rule.validateTour outside rules c v)
  | struct {bindings : List (FieldBinding (List Rule))} {c : Context} {v : Value}
      (hb : ∀ b ∈ bindings, ∀ r ∈ b.rules, r.Customs P) (hs : outside.subject v)
      (hv : v.Validators Q) :
      Called outside P Q (Rule.validateStruct bindings c v)
        (Rule.structTour outside bindings c v)

/-- A run of code from outside that logs nothing itself. It may call validations, and it ends
in the internal error of one that ends in such. -/
inductive Discreet (outside : Outside) : Run → List Move → Prop
  | answer (o : Outcome) : Discreet outside (.silent o) []
  | quietly {events : List Event} (h : ∀ ev ∈ events, ev.isReport = false) {r : Run}
      {moves : List Move} (hr : Discreet outside r moves) : Discreet outside (r.after events) moves
  | proceed {r next : Run} {moves more : List Move}
      (hr : Called outside
        (fun check => ∀ c v, outside.subject v →
          Discreet outside (check c v) (outside.check check c v))
        (fun w => ∀ c, Discreet outside (w c) (outside.validator w c)) r moves)
      (hi : Outcome.isInternal r.outcome = false) (hn : Discreet outside next more) :
      Discreet outside (next.after r.events) (moves ++ more)
  | relay {r : Run} {moves : List Move}
      (hr : Called outside
        (fun check => ∀ c v, outside.subject v →
          Discreet outside (check c v) (outside.check check c v))
        (fun w => ∀ c, Discreet outside (w c) (outside.validator w c)) r moves)
      (hi : Outcome.isInternal r.outcome = true) {later : List Event}
      (h : ∀ ev ∈ later, ev.isReport = false) :
      Discreet outside ⟨r.events ++ later, r.outcome⟩ moves

section Calls
variable {outside : Outside} {r : Run} {moves : List Move}

theorem Called.logs (h : Called outside outside.CheckLogs outside.ValidatorLogs r moves) :
    r.LogsWithin [] moves := by
  cases h with
  | rules hr hs hv => exact checkAll_logs fun r hm => Rule.check_logs (hr r hm) ⟨hs, hv⟩ _
  | value hr hs hv => exact validate_logs hv fun r hm => Rule.check_logs (hr r hm) ⟨hs, hv⟩ _
  | struct hb hs hv =>
    apply validateStruct_logs
    intro b hm f key hf
    have hfield := outside.inherited_valueLogs.resolved ⟨hs, hv⟩ hf
    exact validate_logs hfield.2 fun r hr => Rule.check_logs (hb b hm r hr) hfield _

/-- Code from outside that logs nothing itself logs its moves. The induction is on how the run
came about, and goes on into the rules and values of the validations it called. -/
theorem Discreet.logs (h : Discreet outside r moves) : r.LogsWithin [] moves := by
  refine @Discreet.rec outside (fun r moves _ => r.LogsWithin [] moves)
    (fun r moves _ => r.LogsWithin [] moves) (fun rule _ => rule.Customs outside.CheckLogs)
    (fun v _ => v.Validators outside.ValidatorLogs) ?answer ?quietly ?proceed ?relay ?rules ?value
    ?struct ?leaf ?custom ?skip ?choose ?each ?map ?wrapped ?validators r moves h
  case answer => exact fun o => .silent rfl (.inl rfl)
  case quietly =>
    intro events h r moves _ ih
    exact ih.of_log (Run.log_after_of_quiet h r) rfl
  case proceed => exact fun _ hi _ hr hn => hr.append hi hn
  case relay =>
    intro r moves _ _ later h ih
    exact ih.of_log (Run.log_append_of_quiet h r) rfl
  case rules => exact fun _ hs _ hr hv => Called.logs (.rules hr hs hv)
  case value => exact fun _ hs _ hr hv => Called.logs (.value hr hs hv)
  case struct => exact fun _ hs _ hb hv => Called.logs (.struct hb hs hv)
  case leaf => exact .leaf
  case custom => exact fun ends _ ih => .custom ends ih
  case skip => exact .skip
  case choose => exact fun condition _ _ _ _ hr ho => .choose condition hr ho
  case each => exact fun failFast _ hr => .each failFast hr
  case map => exact fun allowExtra _ hk => .map allowExtra hk
  case wrapped => exact fun _ h => .wrapped h
  case validators => exact fun _ _ own parts => .intro own parts

end Calls

namespace Outside

/-- A check from outside that logs nothing itself, making the moves given for it. -/
abbrev DiscreetCheck (outside : Outside) (check : Check) : Prop :=
  ∀ c v, outside.subject v → Discreet outside (check c v) (outside.check check c v)

/-- A validator that logs nothing itself, making the moves given for it. -/
abbrev DiscreetValidator (outside : Outside) (validator : Validator) : Prop :=
  ∀ c, Discreet outside (validator c) (outside.validator validator c)

end Outside

/-- Code from outside that does no more than call a validation. -/
theorem Called.discreet {outside : Outside} {r : Run} {moves : List Move}
    (h : Called outside outside.DiscreetCheck outside.DiscreetValidator r moves) :
    Discreet outside r moves := by
  cases hi : Outcome.isInternal r.outcome with
  | false =>
    have hlast := Discreet.proceed h hi (.answer r.outcome)
    rwa [Run.after, Run.silent, List.append_nil, List.append_nil] at hlast
  | true =>
    have hquiet : ∀ ev ∈ ([] : List Event), ev.isReport = false := by simp
    have hlast := Discreet.relay h hi hquiet
    rwa [List.append_nil] at hlast

/-- The log of every validation has an opening for each struct and map entered, in order, and
after these only reports of an internal error that ended it. Such an error is reported once for
each traversal open when it arose, innermost first and at the binding where that one was. -/
theorem validation_log_mirrors_moves {outside : Outside} {v : Value} (hs : outside.subject v)
    (hv : v.Validators outside.DiscreetValidator) (c : Context) :
    (∀ rules : List Rule, (∀ r ∈ rules, r.Customs outside.DiscreetCheck) →
      (Rule.validate rules c v).Mirrors (Rule.validateTour outside rules c v)) ∧
    ∀ bindings : List (FieldBinding (List Rule)),
      (∀ b ∈ bindings, ∀ r ∈ b.rules, r.Customs outside.DiscreetCheck) →
        (Rule.validateStruct bindings c v).Mirrors (Rule.structTour outside bindings c v) := by
  have hvalue : v.Validators outside.ValidatorLogs := hv.mono fun w hw c => (hw c).logs
  have hrule {r : Rule} (hr : r.Customs outside.DiscreetCheck) : r.Customs outside.CheckLogs :=
    hr.mono fun check h c v hs => (h c v hs).logs
  constructor
  · intro rules hr
    exact (Called.value (fun r hm => hrule (hr r hm)) hs hvalue).logs.mirrors
  · intro bindings hb
    exact (Called.struct (fun b hm r hr => hrule (hb b hm r hr)) hs hvalue).logs.mirrors

/-- A check from outside that looks for a field which a struct lacks, run on the struct under a
key of a map in a list. The struct validates itself and passes. -/
theorem validation_log_mirrors_moves_of_missing_field :
    let quiet : Value → Prop := fun u => u.Validators fun w => ∀ c, ∃ o, w c = .silent o
    let plain : Outside := ⟨quiet, Value.inherited_validators _, fun _ _ _ => [], fun _ _ => []⟩
    let look : List (FieldBinding (List Rule)) := [⟨"X", []⟩]
    let outside : Outside := { plain with check := fun _ => Rule.structTour plain look }
    let v : Value := .struct "S" [⟨"L", none, false, .list [.map .text
      [(.text "k", .struct "T" [] (some fun _ => .ok))]]⟩] none
    let rules : List Rule :=
      [.each [.map [⟨.text "k", [.custom (Rule.validateStruct look) false], false⟩] false] false]
    let r := Rule.validateStruct [⟨"L", rules⟩] .background v
    let moves := Rule.structTour outside [⟨"L", rules⟩] .background v
    outside.subject v ∧ v.Validators outside.DiscreetValidator ∧
      (∀ r ∈ rules, r.Customs outside.DiscreetCheck) ∧ r.Mirrors moves ∧
      openAfter [] moves =
        [⟨.struct "T" 1, .missing 0⟩, ⟨.map 1 1, .key "k"⟩, ⟨.struct "S" 1, .field "L"⟩] ∧
      r.log = [.structOpened "S" 1, .mapOpened 1 1, .structOpened "T" 1,
        .mapAborted "k" (Error.internal (.fieldNotFound 0)).message,
        .structAborted "S" "L" (Error.internal (.fieldNotFound 0)).message] := by
  intro quiet plain look outside v rules r moves
  have hdiscreet {u : Value} (hu : quiet u) : u.Validators outside.DiscreetValidator := by
    refine hu.mono fun w hw c => ?_
    obtain ⟨o, ho⟩ := hw c
    rw [ho]
    exact .answer o
  have hcheck : outside.DiscreetCheck (Rule.validateStruct look) := by
    intro c u hu
    have hcalled : Called outside outside.DiscreetCheck outside.DiscreetValidator
        (Rule.validateStruct look c u) (Rule.structTour outside look c u) :=
      .struct (by simp [look]) hu (hdiscreet hu)
    exact hcalled.discreet
  have hquiet : quiet v := by
    have hinner : quiet (.struct "T" [] (some fun _ => .ok)) := by
      refine .intro ?_ (by simp [Value.parts])
      rintro w hw c
      cases hw
      exact ⟨.ok (), rfl⟩
    have hmap : quiet (.map .text [(.text "k", .struct "T" [] (some fun _ => .ok))]) :=
      .of_parts rfl (by simpa [Value.parts] using hinner)
    have hlist : quiet (.list [.map .text [(.text "k", .struct "T" [] (some fun _ => .ok))]]) :=
      .of_parts rfl (by simpa [Value.parts] using hmap)
    exact .of_parts rfl (by simpa [v, Value.parts] using hlist)
  have hrules : ∀ r ∈ rules, r.Customs outside.DiscreetCheck := by
    have hmap : (Rule.map [⟨.text "k", [.custom (Rule.validateStruct look) false], false⟩]
        false).Customs outside.DiscreetCheck := .map false (by simpa using .custom false hcheck)
    simp only [rules, List.forall_mem_singleton]
    exact .each false (by simpa using hmap)
  have hlog := (validation_log_mirrors_moves hquiet (hdiscreet hquiet) .background).2 [⟨"L", rules⟩]
    (by simpa using hrules)
  exact ⟨hquiet, hdiscreet hquiet, hrules, hlog,
    by subst moves r rules v outside look plain quiet; rfl, by subst moves r rules v look; rfl⟩

end Verdict
