import Mathlib.Tactic.Lemma
import Signatures.Proofs.Words
import Signatures.Signature.Reader

/-!
# The two halves of a signature

The first opening parenthesis divides a text into two halves that are read apart from each other.
This file says what each half contributes, so that no later proof opens `Signature.read` again.

* `Declaration.readHalf`, `Param.readHalf` — reading one half, with the defect it may have.
* **`Signature.read_halves`** — reading a text is reading its halves, the first one first.
* `Declaration.readHalf_eq_ok_iff`, `Param.readHalf_eq_ok_iff` — what each half yields, and the
  lemmas beside them what each half lacks when it yields nothing.
* `Declaration.readHalf_eq_ok_iff_fields`, `Param.mapM_ofWords?_eq_some_iff` — the words of a text
  are the fields of what is read from it.
* `Param.body?_last` — everything about the closing parenthesis: only the last character that is
  not blank decides.
-/

namespace Signatures

/-! ## Before the parenthesis -/

namespace Declaration

/-- Reads the half before the opening parenthesis. -/
def readHalf (before : List Char) : Except Defect Declaration :=
  match read? before with
  | none => .error .declarationWords
  | some declaration => .ok declaration

/-- Two or three words stand in a text. -/
def Fits (before : List Char) : Prop := (words before).length = 2 ∨ (words before).length = 3

instance (before : List Char) : Decidable (Fits before) :=
  inferInstanceAs (Decidable ((words before).length = 2 ∨ (words before).length = 3))

/-- Only the words count. -/
lemma readHalf_congr {a b : List Char} (h : words a = words b) : readHalf a = readHalf b := by
  rw [readHalf, readHalf, read?, read?, h]

lemma readHalf_eq_ok_iff {before : List Char} {d : Declaration} :
    readHalf before = .ok d ↔
      (∃ m t n, words before = [m, t, n] ∧
        d = ⟨some (String.ofList m), String.ofList t, String.ofList n⟩) ∨
      (∃ t n, words before = [t, n] ∧ d = ⟨none, String.ofList t, String.ofList n⟩) := by
  constructor
  · intro h
    rw [readHalf, read?] at h
    match hw : words before with
    | [m, t, n] =>
        rw [hw] at h
        cases h
        exact Or.inl ⟨m, t, n, rfl, rfl⟩
    | [t, n] =>
        rw [hw] at h
        cases h
        exact Or.inr ⟨t, n, rfl, rfl⟩
    | [] | [_] | _ :: _ :: _ :: _ :: _ =>
        rw [hw] at h
        cases h
  · rintro (⟨m, t, n, hw, rfl⟩ | ⟨t, n, hw, rfl⟩)
    · rw [readHalf, read?, hw]
      rfl
    · rw [readHalf, read?, hw]
      rfl

/-- A half with another number of words has one defect only. -/
lemma readHalf_eq_error_iff {before : List Char} {defect : Defect} :
    readHalf before = .error defect ↔ ¬ Fits before ∧ defect = .declarationWords := by
  rw [readHalf, read?, Fits]
  match words before with
  | [] | [_] | _ :: _ :: _ :: _ :: _ => simp [ofWords?, eq_comm]
  | [t, n] => simp [ofWords?]
  | [m, t, n] => simp [ofWords?]

/-- The fields of a declaration that are there, in the order in which they are written. -/
def fields (d : Declaration) : List (List Char) :=
  (d.modifier.map String.toList).toList ++ [d.returnType.toList, d.name.toList]

/-- **A half is read as the declaration of which its words are the fields.** -/
lemma readHalf_eq_ok_iff_fields {before : List Char} {d : Declaration} :
    readHalf before = .ok d ↔ words before = d.fields := by
  rw [readHalf_eq_ok_iff]
  constructor
  · rintro (⟨m, t, n, hw, rfl⟩ | ⟨t, n, hw, rfl⟩)
    · simp [fields, hw]
    · simp [fields, hw]
  · obtain ⟨modifier, returnType, name⟩ := d
    intro hw
    cases modifier with
    | none => exact Or.inr ⟨returnType.toList, name.toList, hw, by simp⟩
    | some m => exact Or.inl ⟨m.toList, returnType.toList, name.toList, hw, by simp⟩

lemma exists_readHalf_iff {before : List Char} : (∃ d, readHalf before = .ok d) ↔ Fits before := by
  constructor
  · rintro ⟨d, hd⟩
    rcases readHalf_eq_ok_iff.1 hd with ⟨m, t, n, hw, -⟩ | ⟨t, n, hw, -⟩
    · exact Or.inr (by rw [hw]; rfl)
    · exact Or.inl (by rw [hw]; rfl)
  · intro hfits
    cases h : readHalf before with
    | ok d => exact ⟨d, rfl⟩
    | error defect => exact absurd hfits (readHalf_eq_error_iff.1 h).1

end Declaration

/-! ## The closing parenthesis -/

/-- A text that is not blank has a last character that is not. -/
lemma exists_last_of_not_allBlank {cs : List Char} (h : allBlank cs = false) :
    ∃ front c blanks, cs = front ++ c :: blanks ∧ isBlank c = false ∧ allBlank blanks = true := by
  induction cs with
  | nil => exact Bool.noConfusion h
  | cons d cs ih =>
      cases hcs : allBlank cs with
      | true =>
          rw [allBlank_cons, hcs, Bool.and_true] at h
          exact ⟨[], d, cs, rfl, h, hcs⟩
      | false =>
          obtain ⟨front, c, blanks, rfl, hc, hb⟩ := ih hcs
          exact ⟨d :: front, c, blanks, rfl, hc, hb⟩

namespace Param

/-- **The last character that is not blank decides** whether there is a body. -/
lemma body?_last {front blanks : List Char} {c : Char} (hc : isBlank c = false)
    (hb : allBlank blanks = true) :
    body? (front ++ c :: blanks) = if c = ')' then some front else none := by
  split
  · next h => rw [h, body?_append hb]
  · next h =>
    have hdrop : (front ++ c :: blanks).reverse.dropWhile isBlank = c :: front.reverse := by
      rw [List.reverse_append, List.reverse_cons, List.append_assoc,
        List.dropWhile_append_of_pos (allBlank_iff.1 (by rw [allBlank_reverse, hb]))]
      simp [hc]
    simp only [body?, hdrop]
    split
    · next heq => exact absurd (List.cons.inj heq).1 h
    · rfl

lemma body?_of_allBlank {cs : List Char} (h : allBlank cs = true) : body? cs = none := by
  cases hbody : body? cs with
  | none => rfl
  | some body =>
      obtain ⟨blanks, -, rfl⟩ := body?_eq_some_iff.1 hbody
      have hclose : allBlank (body ++ ')' :: blanks) = false :=
        not_allBlank_of_mem (by decide) (List.mem_append_right body List.mem_cons_self)
      rw [hclose] at h
      exact Bool.noConfusion h

/-- Nothing closes a list when its text is blank or ends otherwise. -/
lemma body?_eq_none_iff {cs : List Char} :
    body? cs = none ↔ allBlank cs = true ∨ ∃ front c blanks,
      cs = front ++ c :: blanks ∧ isBlank c = false ∧ allBlank blanks = true ∧ c ≠ ')' := by
  constructor
  · intro h
    cases hcs : allBlank cs with
    | true => exact Or.inl rfl
    | false =>
        obtain ⟨front, c, blanks, rfl, hc, hb⟩ := exists_last_of_not_allBlank hcs
        refine Or.inr ⟨front, c, blanks, rfl, hc, hb, ?_⟩
        rintro rfl
        rw [body?_append hb] at h
        cases h
  · rintro (h | ⟨front, c, blanks, rfl, hc, hb, hne⟩)
    · exact body?_of_allBlank h
    · rw [body?_last hc hb, if_neg hne]

/-- What stands before a text with something on it belongs to the body as it is. -/
lemma body?_append_left {cs : List Char} (h : allBlank cs = false) (front : List Char) :
    body? (front ++ cs) = (body? cs).map (front ++ ·) := by
  obtain ⟨rest, c, blanks, rfl, hc, hb⟩ := exists_last_of_not_allBlank h
  rw [← List.append_assoc, body?_last hc hb, body?_last hc hb]
  split <;> rfl

/-- Blanks at the end count for nothing. -/
lemma body?_append_blanks {blanks : List Char} (hb : allBlank blanks = true) (cs : List Char) :
    body? (cs ++ blanks) = body? cs := by
  cases hcs : allBlank cs with
  | true =>
      rw [body?_of_allBlank hcs, body?_of_allBlank (by rw [allBlank_append, hcs, hb]; rfl)]
  | false =>
      obtain ⟨front, c, rest, rfl, hc, hr⟩ := exists_last_of_not_allBlank hcs
      have hall : allBlank (rest ++ blanks) = true := by rw [allBlank_append, hr, hb]; rfl
      rw [List.append_assoc, List.cons_append, body?_last hc hr, body?_last hc hall]

end Param

/-! ## The parameters -/

section Traverse

variable {α β : Type} {f : α → Option β}

lemma mapM_eq_some_iff {xs : List α} {ys : List β} :
    xs.mapM f = some ys ↔ xs.map f = ys.map some := by
  induction xs generalizing ys with
  | nil => cases ys <;> simp
  | cons x xs ih => cases ys <;> simp [Option.bind_eq_some_iff, ih]

lemma mapM_eq_none_iff {xs : List α} : xs.mapM f = none ↔ ∃ x ∈ xs, f x = none := by
  induction xs with
  | nil => simp
  | cons x xs ih =>
      rw [List.mapM_cons]
      simp only [List.mem_cons, exists_eq_or_imp, ← ih]
      cases f x with
      | none => simp
      | some y => cases xs.mapM f <;> simp

end Traverse

namespace Param

/-- The words of every piece between commas. -/
def pieces (body : List Char) : List (List (List Char)) := (body.splitOn ',').map words

lemma pieces_append_comma (a b : List Char) : pieces (a ++ ',' :: b) = pieces a ++ pieces b := by
  rw [pieces, List.splitOn_append_cons_self, List.map_append]
  rfl

lemma ofWords?_eq_some_iff {ws : List (List Char)} {p : Param} :
    ofWords? ws = some p ↔ ∃ t n, ws = [t, n] ∧ p = ⟨String.ofList t, String.ofList n⟩ := by
  constructor
  · intro h
    match ws with
    | [t, n] => exact ⟨t, n, rfl, (Option.some.inj h).symm⟩
  · rintro ⟨t, n, rfl, rfl⟩
    rfl

lemma ofWords?_eq_none_iff {ws : List (List Char)} : ofWords? ws = none ↔ ws.length ≠ 2 := by
  match ws with
  | [] | [_] | [_, _] | _ :: _ :: _ :: _ => simp [ofWords?]

/-- The fields of a parameter, in the order in which they are written. -/
def fields (p : Param) : List (List Char) := [p.type.toList, p.name.toList]

lemma ofWords?_eq_some_iff_fields {ws : List (List Char)} {p : Param} :
    ofWords? ws = some p ↔ ws = p.fields := by
  rw [ofWords?_eq_some_iff]
  constructor
  · rintro ⟨t, n, rfl, rfl⟩
    simp [fields]
  · intro hw
    exact ⟨p.type.toList, p.name.toList, hw, by simp⟩

/-- Groups of words are read as the parameters of which they are the fields, one by one. -/
lemma mapM_ofWords?_eq_some_iff {wss : List (List (List Char))} {params : List Param} :
    wss.mapM ofWords? = some params ↔ wss = params.map fields := by
  rw [mapM_eq_some_iff]
  induction wss generalizing params with
  | nil => cases params <;> simp
  | cons ws wss ih =>
      cases params with
      | nil => simp
      | cons p params => simp only [List.map_cons, List.cons.injEq, ofWords?_eq_some_iff_fields, ih]

lemma readAll?_of_allBlank {body : List Char} (h : allBlank body = true) :
    readAll? body = some [] := by
  rw [readAll?, if_pos h]

lemma readAll?_of_not_allBlank {body : List Char} (h : allBlank body = false) :
    readAll? body = (pieces body).mapM ofWords? := by
  rw [readAll?, if_neg (by rw [h]; exact Bool.false_ne_true), pieces, List.mapM_map]
  rfl

/-- The parameters are missing when a piece of a body that is not blank is other than two words. -/
lemma readAll?_eq_none_iff {body : List Char} :
    readAll? body = none ↔
      allBlank body = false ∧ ∃ piece ∈ body.splitOn ',', (words piece).length ≠ 2 := by
  cases h : allBlank body with
  | true => simp [readAll?_of_allBlank h]
  | false => simp [readAll?_of_not_allBlank h, mapM_eq_none_iff, pieces, ofWords?_eq_none_iff]

/-- Reads the half after the opening parenthesis. -/
def readHalf (after : List Char) : Except Defect (List Param) :=
  match body? after with
  | none => .error .noClosing
  | some body =>
    match readAll? body with
    | none => .error .argumentShape
    | some params => .ok params

lemma readHalf_eq_ok_iff {after : List Char} {params : List Param} :
    readHalf after = .ok params ↔
      ∃ body, body? after = some body ∧ readAll? body = some params := by
  rw [readHalf]
  cases body? after with
  | none => simp
  | some body => cases h : readAll? body <;> simp [h]

lemma readHalf_eq_error_iff {after : List Char} {defect : Defect} :
    readHalf after = .error defect ↔
      (body? after = none ∧ defect = .noClosing) ∨
      ∃ body, body? after = some body ∧ readAll? body = none ∧ defect = .argumentShape := by
  rw [readHalf]
  cases body? after with
  | none => simp [eq_comm]
  | some body => cases h : readAll? body <;> simp [h, eq_comm]

end Param

/-! ## Both halves -/

namespace Signature

lemma read_of_not_mem {cs : List Char} (h : '(' ∉ cs) : read cs = .error .noOpening := by
  rw [read, cutAt?_eq_none_iff.2 h]

/-- **Reading a text is reading its halves.** -/
theorem read_halves {before : List Char} (h : '(' ∉ before) (after : List Char) :
    read (before ++ '(' :: after) =
      (Declaration.readHalf before).bind fun d => (Param.readHalf after).map d.signature := by
  simp only [read, cutAt?_append h, Declaration.readHalf, Param.readHalf]
  cases Declaration.read? before with
  | none => rfl
  | some d =>
      cases Param.body? after with
      | none => rfl
      | some body => cases h : Param.readAll? body <;> simp [h, Except.bind, Except.map]

/-- A text is read when both its halves are. -/
lemma read_append_eq_ok_iff {before after : List Char} (h : '(' ∉ before) {sig : Signature} :
    read (before ++ '(' :: after) = .ok sig ↔ ∃ d params,
      Declaration.readHalf before = .ok d ∧ Param.readHalf after = .ok params ∧
      sig = d.signature params := by
  rw [read_halves h]
  cases Declaration.readHalf before with
  | error defect => simp [Except.bind]
  | ok d => cases Param.readHalf after <;> simp [Except.bind, Except.map, eq_comm]

/-- It has the defect of the first half that has one. -/
lemma read_append_eq_error_iff {before after : List Char} (h : '(' ∉ before) {defect : Defect} :
    read (before ++ '(' :: after) = .error defect ↔
      Declaration.readHalf before = .error defect ∨
        (∃ d, Declaration.readHalf before = .ok d) ∧ Param.readHalf after = .error defect := by
  rw [read_halves h]
  cases Declaration.readHalf before with
  | error e => simp [Except.bind]
  | ok d => cases Param.readHalf after <;> simp [Except.bind, Except.map]

lemma read_eq_ok_iff {cs : List Char} {sig : Signature} :
    read cs = .ok sig ↔ ∃ before after d params, cs = before ++ '(' :: after ∧ '(' ∉ before ∧
      Declaration.readHalf before = .ok d ∧ Param.readHalf after = .ok params ∧
      sig = d.signature params := by
  constructor
  · intro h
    rcases Decidable.em ('(' ∈ cs) with hm | hm
    · obtain ⟨before, after, rfl, hb⟩ := List.eq_append_cons_of_mem hm
      obtain ⟨d, params, hread⟩ := (read_append_eq_ok_iff hb).1 h
      exact ⟨before, after, d, params, rfl, hb, hread⟩
    · rw [read_of_not_mem hm] at h
      cases h
  · rintro ⟨before, after, d, params, rfl, hb, hread⟩
    exact (read_append_eq_ok_iff hb).2 ⟨d, params, hread⟩

lemma read_eq_error_iff {cs : List Char} {defect : Defect} :
    read cs = .error defect ↔ ('(' ∉ cs ∧ defect = .noOpening) ∨
      ∃ before after, cs = before ++ '(' :: after ∧ '(' ∉ before ∧
        (Declaration.readHalf before = .error defect ∨
          (∃ d, Declaration.readHalf before = .ok d) ∧ Param.readHalf after = .error defect) := by
  constructor
  · intro h
    rcases Decidable.em ('(' ∈ cs) with hm | hm
    · obtain ⟨before, after, rfl, hb⟩ := List.eq_append_cons_of_mem hm
      exact Or.inr ⟨before, after, rfl, hb, (read_append_eq_error_iff hb).1 h⟩
    · rw [read_of_not_mem hm] at h
      cases h
      exact Or.inl ⟨hm, rfl⟩
  · rintro (⟨hm, rfl⟩ | ⟨before, after, rfl, hb, hread⟩)
    · exact read_of_not_mem hm
    · exact (read_append_eq_error_iff hb).2 hread

lemma parse_eq_ok_iff {text : String} {sig : Signature} :
    parse text = .ok sig ↔ read text.toList = .ok sig := by
  rw [parse]
  cases read text.toList <;> simp [Except.mapError]

/-- A report shows the text that was read. -/
lemma parse_eq_error_iff {text : String} {fault : Fault} :
    parse text = .error fault ↔
      ∃ defect, read text.toList = .error defect ∧ fault = .malformed text defect := by
  rw [parse]
  cases read text.toList <;> simp [Except.mapError, eq_comm]

end Signature

end Signatures
