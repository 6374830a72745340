import Mathlib.Data.List.DropRight
import Verdict.Errors.MessageTemplate

/-! Templates as they are written, part by part, against the messages that are read off them: a
placeholder gives way to its parameter, and all else, filled-in text included, stays as it is. -/
namespace Verdict
namespace MessageTemplate

/-- A part of a template: text, a placeholder with the blanks around it, or another action. -/
inductive Part where
  | literal (text : String)
  | placeholder (before name after : String)
  | action (inner : String)

namespace Part

def written : Part → String
  | .literal text => text
  | .placeholder before name after => "\x7b\x7b" ++ before ++ "." ++ name ++ after ++ "\x7d\x7d"
  | .action inner => "\x7b\x7b" ++ inner ++ "\x7d\x7d"

/-- What the message of a violation shows of a part. -/
def shown (v : Violation) : Part → String
  | .literal text => text
  | .placeholder _ name _ =>
    match v.param? name with
    | some (.string s) => s
    | some j => j.render
    | none => "<no value>"
  | .action inner => "\x7b\x7b" ++ inner ++ "\x7d\x7d"

/-- Text opens no action; a name holds no blank and no brace; an action closes with the first pair
of closing braces, and its first letter is no point. -/
def Admissible : Part → Prop
  | .literal text => ¬ ['\x7b', '\x7b'] <:+: text.toList
  | .placeholder before name after =>
    (∀ c ∈ before.toList, isBlank c) ∧ (∀ c ∈ after.toList, isBlank c) ∧
      ∀ c ∈ name.toList, ¬ isBlank c ∧ c ≠ '\x7b' ∧ c ≠ '\x7d'
  | .action inner =>
    '\x7d' ∉ inner.toList ∧ (inner.toList.dropWhile isBlank).head? ≠ some '.'

/-- Text whose last brace could be taken for the first one of what follows. -/
def EndsOpen : Part → Prop
  | .literal text => text.toList.getLast? = some '\x7b'
  | _ => False

instance (p : Part) : Decidable p.Admissible :=
  match p with
  | .literal text =>
    @instDecidableNot _ (List.instDecidableIsInfixOfDecidableEq ['\x7b', '\x7b'] text.toList)
  -- Not by search for an instance, which may go through all characters there are.
  | .placeholder before name after =>
    decidable_of_iff ((before.toList.all isBlank && after.toList.all isBlank &&
      name.toList.all fun c => !isBlank c && c != '\x7b' && c != '\x7d') = true)
      (by simp [Admissible, and_assoc])
  | .action _ => inferInstanceAs (Decidable (_ ∧ _))

instance (p : Part) : Decidable p.EndsOpen :=
  match p with
  | .literal text => inferInstanceAs (Decidable (text.toList.getLast? = some '\x7b'))
  | .placeholder _ _ _ => inferInstanceAs (Decidable False)
  | .action _ => inferInstanceAs (Decidable False)

end Part

/-- Parts that make a template, the last of them perhaps followed by an action left open. -/
structure Composed (parts : List Part) (tail : Option String) : Prop where
  admissible : ∀ p ∈ parts, p.Admissible
  closed : ∀ p ∈ parts.dropLast, ¬ p.EndsOpen
  tail_open : ∀ t ∈ tail, ¬ ['\x7d', '\x7d'] <:+: t.toList

def openTail : Option String → String
  | none => ""
  | some t => "\x7b\x7b" ++ t

private def renderAll (v : Violation) (pieces : List Piece) : String :=
  String.join (pieces.map (Piece.render v.params))

section Scan

private theorem scan_cons {c : Char} {s : List Char} (h : c = '\x7b' → s.head? ≠ some '\x7b') :
    scan none (c :: s) = .literal c :: scan none s := by
  cases s with
  | nil => simp [scan]
  | cons d s =>
    rw [scan]
    rintro rest rfl hd
    cases hd
    exact h rfl rfl

theorem scan_literal {text : List Char} (htext : ¬ ['\x7b', '\x7b'] <:+: text) {rest : List Char}
    (hrest : text.getLast? = some '\x7b' → rest.head? ≠ some '\x7b') :
    scan none (text ++ rest) = text.map .literal ++ scan none rest := by
  induction text with
  | nil => rfl
  | cons c cs ih =>
    have hcs : ¬ ['\x7b', '\x7b'] <:+: cs := fun h =>
      htext (h.trans (List.suffix_cons c cs).isInfix)
    cases cs with
    | nil =>
      rw [List.singleton_append, scan_cons fun hc => hrest (by rw [hc]; rfl)]
      rfl
    | cons d ds =>
      have hstep : c = '\x7b' → d ≠ '\x7b' := by
        rintro rfl rfl
        exact htext (List.prefix_append ['\x7b', '\x7b'] ds).isInfix
      rw [List.cons_append, scan_cons (by simpa using hstep), ih hcs (by simpa using hrest)]
      rfl

theorem scan_action {inner : List Char} (h : '\x7d' ∉ inner) (read rest : List Char) :
    scan (some read) (inner ++ '\x7d' :: '\x7d' :: rest) =
      .action (read.reverse ++ inner) :: scan none rest := by
  induction inner generalizing read with
  | nil => simp [scan]
  | cons c cs ih =>
    have hc : c ≠ '\x7d' := fun hc => h (hc ▸ List.mem_cons_self)
    have hcs : '\x7d' ∉ cs := fun hm => h (List.mem_cons_of_mem _ hm)
    rw [List.cons_append, scan, ih hcs]
    · simp
    · rintro rest' rfl
      exact absurd rfl hc

theorem scan_unclosed {tail : List Char} (h : ¬ ['\x7d', '\x7d'] <:+: tail) (read : List Char) :
    scan (some read) tail = [.unclosed (read.reverse ++ tail)] := by
  induction tail generalizing read with
  | nil => simp [scan]
  | cons c cs ih =>
    have hcs : ¬ ['\x7d', '\x7d'] <:+: cs := fun hi => h (hi.trans (List.suffix_cons c cs).isInfix)
    rw [scan, ih hcs]
    · simp
    · rintro rest rfl rfl
      exact h (List.prefix_append ['\x7d', '\x7d'] rest).isInfix

end Scan

section Names

/-- Blanks at both ends of a text without blanks are trimmed off. -/
theorem trim_padded {before core after : List Char} (hb : ∀ c ∈ before, isBlank c)
    (hcore : ∀ c ∈ core, ¬ isBlank c) (ha : ∀ c ∈ after, isBlank c) (hne : core ≠ []) :
    trim (before ++ core ++ after) = core := by
  have hleft : (before ++ core ++ after).dropWhile isBlank = core ++ after := by
    obtain ⟨c, cs, rfl⟩ := List.exists_cons_of_ne_nil hne
    rw [List.append_assoc, List.dropWhile_append_of_pos hb, List.cons_append,
      List.dropWhile_cons_of_neg (hcore c List.mem_cons_self)]
  have hright : (after.reverse ++ core.reverse).dropWhile isBlank = core.reverse := by
    rw [List.dropWhile_append_of_pos fun c hc => ha c (List.mem_reverse.mp hc)]
    refine List.dropWhile_eq_self_iff.mpr fun hl => hcore _ ?_
    exact List.mem_reverse.mp (List.getElem_mem hl)
  rw [trim, hleft, List.reverse_append, hright, List.reverse_reverse]

/-- A placeholder stands for its name, with blanks around it or without. -/
theorem name?_padded {before name after : String} (hb : ∀ c ∈ before.toList, isBlank c)
    (hname : ∀ c ∈ name.toList, ¬ isBlank c) (ha : ∀ c ∈ after.toList, isBlank c) :
    name? (before ++ "." ++ name ++ after).toList = some name := by
  have hcore : ∀ c ∈ '.' :: name.toList, ¬ isBlank c :=
    List.forall_mem_cons.mpr ⟨by decide, hname⟩
  have htrim := trim_padded hb hcore ha (List.cons_ne_nil _ _)
  have hsplit : (before ++ "." ++ name ++ after).toList =
      before.toList ++ '.' :: name.toList ++ after.toList := by simp
  rw [name?, hsplit, htrim]
  exact congrArg some String.ofList_toList

theorem name?_eq_none {inner : List Char}
    (h : (inner.dropWhile isBlank).head? ≠ some '.') : name? inner = none := by
  have hprefix : trim inner <+: inner.dropWhile isBlank := List.rdropWhile_prefix _ _
  rw [name?]
  split
  · next name htrim =>
    rw [htrim] at hprefix
    obtain ⟨rest, hrest⟩ := hprefix
    rw [← hrest] at h
    exact absurd rfl h
  · rfl

end Names

section Rendering
variable {v : Violation} {p : Part} {parts : List Part} {tail : Option String}

private theorem renderAll_append (ps qs : List Piece) :
    renderAll v (ps ++ qs) = renderAll v ps ++ renderAll v qs := by
  rw [renderAll, List.map_append, String.join_append]
  rfl

private theorem renderAll_cons (piece : Piece) (pieces : List Piece) :
    renderAll v (piece :: pieces) = piece.render v.params ++ renderAll v pieces :=
  String.join_cons

private theorem renderAll_literals (text : List Char) :
    renderAll v (text.map .literal) = String.ofList text := by
  induction text with
  | nil => rfl
  | cons c cs ih =>
    rw [List.map_cons, renderAll_cons, ih]
    apply String.toList_injective
    simp [Piece.render]

private theorem renderAll_unclosed {rest : List Char} (h : ¬ ['\x7d', '\x7d'] <:+: rest) :
    renderAll v (scan none ('\x7b' :: '\x7b' :: rest)) =
      String.ofList ('\x7b' :: '\x7b' :: rest) := by
  rw [scan, scan_unclosed h]
  apply String.toList_injective
  simp [renderAll, Piece.render]

private theorem renderAll_action {inner : String} (h : '\x7d' ∉ inner.toList) (rest : List Char) :
    renderAll v (scan none (("\x7b\x7b" ++ inner ++ "\x7d\x7d").toList ++ rest)) =
      (Piece.action inner.toList).render v.params ++ renderAll v (scan none rest) := by
  have hsplit : ("\x7b\x7b" ++ inner ++ "\x7d\x7d").toList ++ rest =
      '\x7b' :: '\x7b' :: (inner.toList ++ '\x7d' :: '\x7d' :: rest) := by simp
  rw [hsplit, scan, scan_action h, renderAll_cons]
  rfl

/-- A part that its successor leaves alone is rendered by itself. -/
private theorem renderAll_part (hp : p.Admissible) {rest : List Char}
    (hrest : p.EndsOpen → rest.head? ≠ some '\x7b') :
    renderAll v (scan none (p.written.toList ++ rest)) =
      p.shown v ++ renderAll v (scan none rest) := by
  cases p with
  | literal text =>
    rw [Part.written, scan_literal hp hrest, renderAll_append, renderAll_literals,
      String.ofList_toList]
    rfl
  | placeholder before name after =>
    obtain ⟨hb, ha, hname⟩ := hp
    have hclose : '\x7d' ∉ (before ++ "." ++ name ++ after).toList := by
      have hblank : ¬ isBlank '\x7d' := by decide
      simp only [String.toList_append, List.mem_append, not_or]
      exact ⟨⟨⟨fun h => hblank (hb _ h), by decide⟩, fun h => (hname _ h).2.2 rfl⟩,
        fun h => hblank (ha _ h)⟩
    have hwritten : (Part.placeholder before name after).written =
        "\x7b\x7b" ++ (before ++ "." ++ name ++ after) ++ "\x7d\x7d" := by
      simp [Part.written, String.append_assoc]
    have hfound := name?_padded hb (fun c hc => (hname c hc).1) ha
    have hshown : (Part.placeholder before name after).shown v = paramText (v.param? name) := by
      rw [Part.shown]
      cases v.param? name with
      | none => rfl
      | some j => cases j <;> rfl
    rw [hwritten, renderAll_action hclose, Piece.render, hfound, hshown]
    rfl
  | action inner =>
    rw [Part.written, renderAll_action hp.1, Piece.render, name?_eq_none hp.2,
      String.ofList_toList]
    rfl

private theorem renderAll_parts (hparts : ∀ p ∈ parts, p.Admissible ∧ ¬ p.EndsOpen)
    (rest : List Char) :
    renderAll v (scan none ((String.join (parts.map Part.written)).toList ++ rest)) =
      String.join (parts.map (Part.shown v)) ++ renderAll v (scan none rest) := by
  induction parts with
  | nil => simp
  | cons p ps ih =>
    obtain ⟨⟨hp, hopen⟩, hps⟩ := List.forall_mem_cons.mp hparts
    rw [List.map_cons, List.map_cons, String.join_cons, String.join_cons, String.toList_append,
      List.append_assoc, renderAll_part hp fun h => absurd h hopen, ih hps, String.append_assoc]

private theorem renderAll_tail (h : ∀ t ∈ tail, ¬ ['\x7d', '\x7d'] <:+: t.toList) :
    renderAll v (scan none (openTail tail).toList) = openTail tail := by
  cases tail with
  | none => rfl
  | some t =>
    have hsplit : (openTail (some t)).toList = '\x7b' :: '\x7b' :: t.toList := by simp [openTail]
    rw [hsplit, renderAll_unclosed (h t rfl), ← hsplit, String.ofList_toList]

/-- An action that is left open is the same text from whichever brace it is read. -/
private theorem renderAll_brace_tail {text t : String}
    (htext : ¬ ['\x7b', '\x7b'] <:+: text.toList) (hlast : text.toList.getLast? = some '\x7b')
    (ht : ¬ ['\x7d', '\x7d'] <:+: t.toList) :
    renderAll v (scan none (text.toList ++ (openTail (some t)).toList)) =
      text ++ openTail (some t) := by
  obtain ⟨init, hinit⟩ := List.getLast?_eq_some_iff.mp hlast
  have hopens : ¬ ['\x7b', '\x7b'] <:+: init := fun h =>
    htext (hinit ▸ h.trans (List.prefix_append init _).isInfix)
  have hsingle : init.getLast? ≠ some '\x7b' := by
    intro h
    obtain ⟨front, rfl⟩ := List.getLast?_eq_some_iff.mp h
    exact htext (hinit ▸ ⟨front, [], by simp⟩)
  have hrest : ¬ ['\x7d', '\x7d'] <:+: '\x7b' :: t.toList := by
    rw [List.infix_cons_iff]
    rintro (⟨_, heq⟩ | h)
    · exact absurd (List.cons.inj heq).1 (by decide)
    · exact ht h
  have hsplit : text.toList ++ (openTail (some t)).toList =
      init ++ '\x7b' :: '\x7b' :: '\x7b' :: t.toList := by simp [openTail, hinit]
  rw [hsplit, scan_literal hopens fun h => absurd h hsingle, renderAll_append,
    renderAll_literals, renderAll_unclosed hrest]
  apply String.toList_injective
  simp [openTail, hinit]

private theorem renderAll_last (hp : p.Admissible)
    (ht : ∀ t ∈ tail, ¬ ['\x7d', '\x7d'] <:+: t.toList) :
    renderAll v (scan none (p.written.toList ++ (openTail tail).toList)) =
      p.shown v ++ openTail tail := by
  by_cases hopen : p.EndsOpen ∧ tail.isSome
  · obtain ⟨hlast, hsome⟩ := hopen
    obtain ⟨t, rfl⟩ := Option.isSome_iff_exists.mp hsome
    cases p with
    | literal text => exact renderAll_brace_tail hp hlast (ht t rfl)
    | placeholder _ _ _ => cases hlast
    | action _ => cases hlast
  · rw [renderAll_part hp, renderAll_tail ht]
    intro hlast
    cases tail with
    | none => nofun
    | some t => exact absurd ⟨hlast, rfl⟩ hopen

/-- The message of a template that is written in parts: every placeholder gives way to its
parameter, a string as it is, anything else as its document. All else stays as it is, and what is
filled in is not read again. -/
theorem message_of_composed (v : Violation) {parts : List Part} {tail : Option String}
    (h : Composed parts tail)
    (ht : v.template = String.join (parts.map Part.written) ++ openTail tail) :
    v.message = String.join (parts.map (Part.shown v)) ++ openTail tail := by
  have hmessage : v.message = renderAll v (scan none
      ((String.join (parts.map Part.written)).toList ++ (openTail tail).toList)) := by
    rw [Violation.message, render, ht, String.toList_append]
    rfl
  rw [hmessage]
  rcases List.eq_nil_or_concat' parts with rfl | ⟨init, last, rfl⟩
  · exact renderAll_tail h.tail_open
  · have hclosed : ∀ p ∈ init, p.Admissible ∧ ¬ p.EndsOpen := by
      intro p hp
      exact ⟨h.admissible p (by simp [hp]), h.closed p (by simpa using hp)⟩
    have hlast : last.Admissible := h.admissible last (by simp)
    have hone (s : String) : String.join [s] = s := by
      rw [String.join_cons, String.join_nil, String.append_empty]
    simp only [List.map_append, List.map_singleton, String.join_append, hone,
      String.toList_append, List.append_assoc]
    rw [renderAll_parts hclosed, renderAll_last hlast h.tail_open, String.append_assoc]

/-- A filled-in string that looks like a placeholder stays as it is, a name without a parameter is
told as such, and the last brace of the text is no matter for the open action behind it. -/
theorem message_of_composed_of_lookalike :
    let template := "\x7d \x7b\x7b .x\t\x7d\x7d\x7b\x7b \x7by\x7d\x7d\x7b\x7b.n\x7d\x7d" ++
      "\x7b\x7b.gone\x7d\x7d \x7b\x7b\x7b.x"
    let v : Violation :=
      ⟨"code", template, [("x", .string "\x7b\x7b.n\x7d\x7d"), ("n", .number (.natural 5))]⟩
    let parts : List Part := [.literal "\x7d ", .placeholder " " "x" "\t", .action " \x7by",
      .placeholder "" "n" "", .placeholder "" "gone" "", .literal " \x7b"]
    Composed parts (some ".x") ∧
      v.template = String.join (parts.map Part.written) ++ openTail (some ".x") ∧
      v.message = String.join (parts.map (Part.shown v)) ++ openTail (some ".x") ∧
      v.message = "\x7d \x7b\x7b.n\x7d\x7d\x7b\x7b \x7by\x7d\x7d5<no value> \x7b\x7b\x7b.x" := by
  intro template v parts
  have hcomposed : Composed parts (some ".x") := by
    subst parts
    exact ⟨by decide, by decide, by decide⟩
  have ht : v.template = String.join (parts.map Part.written) ++ openTail (some ".x") := by decide
  have hmessage := message_of_composed v hcomposed ht
  exact ⟨hcomposed, ht, hmessage, hmessage.trans (by decide)⟩

end Rendering
end MessageTemplate
end Verdict
