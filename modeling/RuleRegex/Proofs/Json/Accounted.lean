import Mathlib.Data.List.TakeWhile
import RuleRegex.Proofs.Json.Outline

/-!
# What the reader makes of a text

What the reader answers for a part of a text shows in the outline. What is read has its arrays and objects
closed and nests only so deeply, and the reader gives up for the size of a text in two cases only: digits
in a row that are too many, and brackets that nest too deeply for the room there is.

## Main definitions

* `Json.Accounted` — a result of reading that the outline of the text accounts for.
-/

namespace RuleRegex

namespace Json

/-- A result of reading, within so many arrays and objects, that the outline of the text accounts for:
what was read has an outline of the given shape, and what exceeds a limit stands in the outline. -/
inductive Accounted {β : Type} (reserve : Fault → Nat) (shape : List CodePoint → Prop) (depth : Nat)
    (s : List CodePoint) : Reading β → Prop where
  | read {b : β} {rest w : List CodePoint} (hw : shape w) (hs : outline s = w ++ outline rest) :
    Accounted reserve shape depth s (.ok (b, rest))
  | fault (f : Fault) (left : Nat) : Accounted reserve shape depth s (.error (.fault f left))
  | tooManyDigits {n : Nat} (hdigits : LongDigits n s) (hn : Text.digitLimit < n) :
    Accounted reserve shape depth s (.error (.tooManyDigits n))
  | tooDeep (h : Crowded reserve depth s) : Accounted reserve shape depth s (.error .tooDeep)

/-- The outline of arrays and objects that are closed, and then of a closing bracket. -/
def Closing (depth : Nat) (w : List CodePoint) : Prop :=
  ∃ v q, w = v ++ [q] ∧ Nested depth v ∧ isClosing q = true

/-- Outlines of a shape that keep it when closed arrays and objects are put before them. -/
def Absorbs (depth : Nat) (shape : List CodePoint → Prop) : Prop :=
  ∀ ⦃v w⦄, Nested depth v → shape w → shape (v ++ w)

theorem absorbs_nested (depth : Nat) : Absorbs depth (Nested depth) := fun _ _ => .append

theorem absorbs_closing (depth : Nat) : Absorbs depth (Closing depth) := by
  rintro u _ hu ⟨v, q, rfl, hv, hq⟩
  exact ⟨u ++ v, q, (List.append_assoc u v [q]).symm, hu.append hv, hq⟩

section

variable {β γ : Type} {reserve : Fault → Nat} {shape : List CodePoint → Prop} {depth n : Nat}
  {p : CodePoint} {s t v : List CodePoint}

theorem LongDigits.of_infix (h : LongDigits n t) (hs : outline t <:+: outline s) : LongDigits n s := by
  obtain ⟨ds, hds, hdigit, hlength⟩ := h
  exact ⟨ds, hds.trans hs, hdigit, hlength⟩

namespace Accounted

/-- What stands before a text, with all its arrays and objects closed, changes nothing. -/
theorem after {r : Reading β} (h : Accounted reserve shape depth t r)
    (hshape : Absorbs depth shape) (hv : Nested depth v) (hs : outline s = v ++ outline t) :
    Accounted reserve shape depth s r := by
  cases h with
  | read hw ht => exact .read (hshape hv hw) (by rw [hs, ht, List.append_assoc])
  | fault f left => exact .fault f left
  | tooManyDigits hdigits hn =>
    exact .tooManyDigits (hdigits.of_infix (hs ▸ (List.suffix_append v _).isInfix)) hn
  | tooDeep h =>
    obtain ⟨w, hw, hlevel⟩ := h
    refine .tooDeep ⟨v ++ w, ?_, ?_⟩
    · rw [hs]
      exact (List.prefix_append_right_inj v).2 hw
    · rwa [level_append, hv.closed, Int.zero_add]

/-- What is read after a part with all its arrays and objects closed. -/
theorem andThen {r : Reading β} {r' : Reading γ}
    (h : Accounted reserve (Nested depth) depth s r) (hshape : Absorbs depth shape)
    (herror : ∀ e, r = .error e → r' = .error e)
    (hnext : ∀ b t, r = .ok (b, t) → Accounted reserve shape depth t r') :
    Accounted reserve shape depth s r' := by
  cases h with
  | read hw hs => exact (hnext _ _ rfl).after hshape hw hs
  | fault f left => exact herror _ rfl ▸ .fault f left
  | tooManyDigits hdigits hn => exact herror _ rfl ▸ .tooManyDigits hdigits hn
  | tooDeep h => exact herror _ rfl ▸ .tooDeep h

/-- What stands inside an array or an object is one level down. -/
theorem enclose {r : Reading β} (hp : isOpening p = true)
    (h : Accounted reserve (Closing depth) depth s r) :
    Accounted reserve (Nested (depth + 1)) (depth + 1) (p :: s) r := by
  have hs : outline (p :: s) = p :: outline s := outline_cons (quote_of_isOpening hp) s
  cases h with
  | read hw ht =>
    obtain ⟨v, q, rfl, hv, hq⟩ := hw
    exact .read (hv.enclosed hp hq) (by rw [hs, ht, List.cons_append])
  | fault f left => exact .fault f left
  | tooManyDigits hdigits hn =>
    exact .tooManyDigits (hdigits.of_infix (hs ▸ (List.suffix_cons p _).isInfix)) hn
  | tooDeep h =>
    obtain ⟨w, hw, hlevel⟩ := h
    refine .tooDeep ⟨p :: w, ?_, ?_⟩
    · rw [hs]
      exact List.cons_prefix_cons.2 ⟨rfl, hw⟩
    · rw [level_cons_opening hp]
      refine hlevel.imp (fun h => by omega) ?_
      rintro ⟨f, hf⟩
      exact ⟨f, by omega⟩

/-- A fault that is not reported stands where its report does not fit. -/
theorem reported {r : Reading β} (h : Accounted reserve shape depth s r) :
    Accounted reserve shape depth s (reported reserve depth r) := by
  cases h with
  | read hw hs => exact .read hw hs
  | fault f left =>
    rw [Json.reported]
    split
    · next hf =>
      refine .tooDeep ⟨[], List.nil_prefix, .inr ⟨f, ?_⟩⟩
      rw [level_nil]
      omega
    · exact .fault f left
  | tooManyDigits hdigits hn => exact .tooManyDigits hdigits hn
  | tooDeep h => exact .tooDeep h

theorem of_bare {b : β} {w rest : List CodePoint} (hw : ∀ p ∈ w, Bare p) (hs : s = w ++ rest) :
    Accounted reserve (Nested depth) depth s (.ok (b, rest)) :=
  .read (nested_of_bare hw) (hs ▸ outline_append hw rest)

end Accounted

theorem exists_skipBlanks (s : List CodePoint) :
    ∃ w, (∀ p ∈ w, Bare p) ∧ outline s = w ++ outline (skipBlanks s) := by
  refine ⟨s.takeWhile isBlank, fun p hp => bare_of_isBlank (List.mem_takeWhile_imp hp), ?_⟩
  rw [skipBlanks, ← outline_append fun p hp => bare_of_isBlank (List.mem_takeWhile_imp hp),
    List.takeWhile_append_dropWhile]

end

theorem eq_ofChar_of_is {c : Char} {p : CodePoint} (h : p.is c = true) : p = CodePoint.ofChar c :=
  Fin.ext (beq_iff_eq.1 h)

theorem eq_of_afterWord? {cs : List Char} {s t : List CodePoint} (h : afterWord? cs s = some t) :
    s = cs.map CodePoint.ofChar ++ t := by
  fun_induction afterWord? cs s with
  | case1 s => exact Option.some.inj h
  | case2 c cs p s hp ih => rw [eq_ofChar_of_is hp, ih h, List.map_cons, List.cons_append]
  | case3 => cases h
  | case4 => cases h

/-! ## Strings -/

section Strings

variable {s rest acc : List CodePoint} {q : CodePoint} {e : Halt} {start fuel depth : Nat}

/-- Hexadecimal digits do not end a string and escape nothing. -/
theorem outlineFrom_inside_of_fourHex? {n : Nat} (h : fourHex? s = some n) :
    outlineFrom .inside s = outlineFrom .inside (s.drop 4) := by
  have hdigit : ∀ (p : CodePoint) (n : Nat), hexDigit? p = some n →
      p.is '"' = false ∧ p.is '\\' = false := by
    intro p n hp
    have hval : p.val ≠ 34 ∧ p.val ≠ 92 := by
      unfold hexDigit? at hp
      grind
    simpa [CodePoint.is] using hval
  unfold fourHex? at h
  split at h
  next a b c d s =>
    simp only [Option.bind_eq_bind, Option.bind_eq_some_iff] at h
    obtain ⟨_, ha, _, hb, _, hc, _, hd, _⟩ := h
    simp [outlineFrom, hdigit a _ ha, hdigit b _ hb, hdigit c _ hc, hdigit d _ hd]
  · cases h

/-- A Unicode escape is four digits, or two escapes of four digits. -/
theorem unicodeEscape_eq_ok (h : unicodeEscape s = .ok (q, rest)) :
    ∃ n, fourHex? s = some n ∧ (rest = s.drop 4 ∨
      ∃ t m, afterWord? ['\\', 'u'] (s.drop 4) = some t ∧ fourHex? t = some m ∧ rest = t.drop 4) := by
  unfold unicodeEscape at h
  grind

theorem outlineFrom_inside_of_unicodeEscape (h : unicodeEscape s = .ok (q, rest)) :
    outlineFrom .inside s = outlineFrom .inside rest := by
  obtain ⟨n, hn, hrest⟩ := unicodeEscape_eq_ok h
  rw [outlineFrom_inside_of_fourHex? hn]
  obtain rfl | ⟨t, m, ht, hm, rfl⟩ := hrest
  · rfl
  · rw [eq_of_afterWord? ht, ← outlineFrom_inside_of_fourHex? hm]
    rfl

theorem unicodeEscape_eq_error (h : unicodeEscape s = .error e) : ∃ f left, e = .fault f left := by
  unfold unicodeEscape at h
  grind

/-- Of the contents of a string only its closing quote shows in the outline. -/
theorem outlineFrom_inside_of_stringBody {text : List CodePoint}
    (h : stringBody start fuel acc s = .ok (text, rest)) :
    ∃ quote, quote.is '"' = true ∧ outlineFrom .inside s = quote :: outline rest := by
  fun_induction stringBody start fuel acc s with
  | case1 | case2 | case4 | case5 | case7 | case9 => cases h
  | case3 fuel acc p s hp =>
    cases h
    exact ⟨p, hp, by simp [outlineFrom, hp, outline]⟩
  | case6 fuel acc p hp hb e t he q t' hq ih =>
    have hescaped : outlineFrom .inside (p :: e :: t) = outlineFrom .inside t := by
      simp [outlineFrom, hp, hb]
    rw [hescaped, outlineFrom_inside_of_unicodeEscape hq]
    exact ih h
  | case8 fuel acc p hp hb e t he q hq ih =>
    have hescaped : outlineFrom .inside (p :: e :: t) = outlineFrom .inside t := by
      simp [outlineFrom, hp, hb]
    rw [hescaped]
    exact ih h
  | case10 fuel acc p s hp hb hlow ih =>
    have hplain : outlineFrom .inside (p :: s) = outlineFrom .inside s := by
      simp [outlineFrom, hp, hb]
    rw [hplain]
    exact ih h

theorem stringBody_eq_error (h : stringBody start fuel acc s = .error e) :
    ∃ f left, e = .fault f left := by
  fun_induction stringBody start fuel acc s with
  | case3 => cases h
  | case5 fuel acc p hp hb q t he e' hq =>
    cases h
    exact unicodeEscape_eq_error hq
  | case6 | case8 | case10 => grind
  | case1 | case2 | case4 | case7 | case9 =>
    cases h
    exact ⟨_, _, rfl⟩

theorem noBracket_of_quote {p : CodePoint} (h : p.is '"' = true) :
    isOpening p = false ∧ isClosing p = false := by
  have hval : p.val = 34 := beq_iff_eq.1 h
  simp [isOpening, isClosing, CodePoint.is, hval]

/-- **Of a string its two quotes are left**, and its faults are no matter of size. -/
theorem accounted_string {p : CodePoint} (hp : p.is '"' = true) (s : List CodePoint) :
    Accounted reserve (Nested depth) depth (p :: s) (string s) := by
  cases h : string s with
  | error e =>
    obtain ⟨f, left, rfl⟩ := stringBody_eq_error h
    exact .fault f left
  | ok r =>
    obtain ⟨quote, hquote, hs⟩ := outlineFrom_inside_of_stringBody h
    have hbrackets : ∀ r ∈ [p, quote], isOpening r = false ∧ isClosing r = false := by
      simp [noBracket_of_quote hp, noBracket_of_quote hquote]
    refine .read (nested_of_noBrackets hbrackets) ?_
    simp [outline, outlineFrom, hp, hs]

end Strings

/-! ## Numbers and words -/

section Numbers

variable {s whole frac exp rest : List CodePoint} {depth : Nat}

/-- Digits at the start of a text, and what follows them. -/
theorem takeWhile_isDigit (s : List CodePoint) :
    s = s.takeWhile isDigit ++ s.dropWhile isDigit ∧ ∀ p ∈ s.takeWhile isDigit, isDigit p = true :=
  ⟨List.takeWhile_append_dropWhile.symm, fun _ hp => List.mem_takeWhile_imp hp⟩

theorem isDigit_of_is_zero {p : CodePoint} (h : p.is '0' = true) : isDigit p = true := by
  rw [eq_ofChar_of_is h]
  rfl

theorem wholeDigits_eq (h : wholeDigits s = (whole, rest)) :
    s = whole ++ rest ∧ ∀ p ∈ whole, isDigit p = true := by
  have hdigits := takeWhile_isDigit
  unfold wholeDigits at h
  grind [isDigit_of_is_zero]

theorem bare_of_is {c : Char} {p : CodePoint} (h : p.is c = true) (hc : Bare (CodePoint.ofChar c)) :
    Bare p := eq_ofChar_of_is h ▸ hc

theorem fraction_eq (h : fraction s = (frac, rest)) : s = frac ++ rest ∧ ∀ p ∈ frac, Bare p := by
  have hpoint : ∀ p : CodePoint, p.is '.' = true → Bare p := fun p hp => bare_of_is hp (by decide)
  have hdigits := takeWhile_isDigit
  unfold fraction at h
  grind [bare_of_isDigit]

theorem exponent_eq (h : exponent s = (exp, rest)) : s = exp ++ rest ∧ ∀ p ∈ exp, Bare p := by
  have hletter : ∀ p : CodePoint, p.is 'e' = true ∨ p.is 'E' = true → Bare p := by
    rintro p (hp | hp)
    · exact bare_of_is hp (by decide)
    · exact bare_of_is hp (by decide)
  have hsign : ∀ p : CodePoint, p.is '-' = true ∨ p.is '+' = true → Bare p := by
    rintro p (hp | hp)
    · exact bare_of_is hp (by decide)
    · exact bare_of_is hp (by decide)
  have hdigits := takeWhile_isDigit
  unfold exponent at h
  grind [bare_of_isDigit]

/-- A number is copied into the outline, and it is refused for its size only if it has too many
digits. -/
theorem accounted_number (s : List CodePoint) : Accounted reserve (Nested depth) depth s (number s) := by
  unfold number
  split
  next sign t hsign =>
  split
  next whole u hwhole =>
  obtain ⟨rfl, hsignBare⟩ : s = sign ++ t ∧ ∀ p ∈ sign, Bare p := by
    have hminus : ∀ p : CodePoint, p.is '-' = true → Bare p := fun p hp => bare_of_is hp (by decide)
    grind
  obtain ⟨rfl, hwholeDigit⟩ := wholeDigits_eq hwhole
  have hwholeBare : ∀ p ∈ whole, Bare p := fun p hp => bare_of_isDigit (hwholeDigit p hp)
  split
  · exact .fault _ _
  split
  next frac v hfrac =>
  split
  next exp rest hexp =>
  obtain ⟨rfl, hfracBare⟩ := fraction_eq hfrac
  obtain ⟨rfl, hexpBare⟩ := exponent_eq hexp
  have hbare : ∀ p ∈ sign ++ whole ++ frac ++ exp, Bare p := by grind
  have htext : sign ++ (whole ++ (frac ++ (exp ++ rest))) = sign ++ whole ++ frac ++ exp ++ rest := by
    simp
  split
  · split
    · next hmany =>
      refine .tooManyDigits ⟨whole, ⟨sign, frac ++ exp ++ outline rest, ?_⟩, hwholeDigit, rfl⟩ hmany
      rw [htext, outline_append hbare]
      simp
    · exact .of_bare hbare htext
  · exact .of_bare hbare htext

theorem bare_of_mem_words :
    ∀ word ∈ words, ∀ c ∈ word.1.toList, Bare (CodePoint.ofChar c) := by
  have hall : words.all fun word => word.1.toList.all fun c => decide (Bare (CodePoint.ofChar c)) := by
    decide
  simpa only [List.all_eq_true, decide_eq_true_eq] using hall

theorem accounted_scalar (s : List CodePoint) : Accounted reserve (Nested depth) depth s (scalar s) := by
  unfold scalar
  split
  next r hr =>
    obtain ⟨word, hword, hr⟩ := List.exists_of_findSome?_eq_some hr
    obtain ⟨t, ht, rfl⟩ := Option.map_eq_some_iff.1 hr
    refine .of_bare ?_ (eq_of_afterWord? ht)
    intro p hp
    obtain ⟨c, hc, rfl⟩ := List.mem_map.1 hp
    exact bare_of_mem_words word hword c hc
  · exact accounted_number s

end Numbers

/-! ## Arrays and objects -/

section Values

variable {depth : Nat} {s t : List CodePoint} {p : CodePoint} {item : List CodePoint → Reading Json}

/-- Blanks before a text change nothing. -/
theorem Accounted.of_skipBlanks {β : Type} {shape : List CodePoint → Prop}
    {r : Reading β} (hshape : Absorbs depth shape)
    (h : Accounted reserve shape depth (skipBlanks s) r) : Accounted reserve shape depth s r := by
  obtain ⟨w, hw, hs⟩ := exists_skipBlanks s
  exact h.after hshape (nested_of_bare hw) hs

/-- A closing bracket ends what is inside. -/
theorem accounted_closing {β : Type} {b : β} (h : isClosing p = true) (t : List CodePoint) :
    Accounted reserve (Closing depth) depth (p :: t) (.ok (b, t)) :=
  .read ⟨[], p, rfl, nested_of_bare (by simp), h⟩ (outline_cons (quote_of_isClosing h) t)

/-- What is read after a bare symbol and blanks is read after the blanks. -/
theorem Accounted.of_separator {r : Reading Json} (hp : Bare p)
    (h : Accounted reserve (Closing depth) depth (skipBlanks t) r) :
    Accounted reserve (Closing depth) depth (p :: t) r := by
  have hbare : ∀ q ∈ [p], Bare q := by simpa using hp
  exact (h.of_skipBlanks (absorbs_closing depth)).after (absorbs_closing depth) (nested_of_bare hbare)
    (outline_append hbare t)

/-- After an item and blanks stands the closing bracket, or a comma and what follows it. -/
theorem accounted_tail {c : Char} {v : Json} {f : Fault} {next : List CodePoint → Reading Json}
    (hc : isClosing (CodePoint.ofChar c) = true)
    (hnext : ∀ s, Accounted reserve (Closing depth) depth s (next s)) (s : List CodePoint) :
    Accounted reserve (Closing depth) depth s
      (match s with
        | [] => halt f []
        | p :: t =>
          if p.is c then .ok (v, t)
          else if p.is ',' then next (skipBlanks t)
          else halt f (p :: t)) := by
  split
  · exact .fault _ _
  next p t =>
  split
  · next hp => exact accounted_closing (eq_ofChar_of_is hp ▸ hc) t
  split
  · next hp => exact .of_separator (bare_of_is hp (by decide)) (hnext (skipBlanks t))
  · exact .fault _ _

/-- Items are accounted for up to the closing bracket, if each of them is. -/
theorem accounted_items (hitem : ∀ s, Accounted reserve (Nested depth) depth s (item s)) (fuel : Nat)
    (acc : List Json) (s : List CodePoint) :
    Accounted reserve (Closing depth) depth s (items item fuel acc s) := by
  induction fuel generalizing acc s with
  | zero => exact .fault _ _
  | succ fuel ih =>
    unfold items
    refine (hitem s).andThen (absorbs_closing depth) (fun e he => by rw [he]) fun v t ht => ?_
    rw [ht]
    exact .of_skipBlanks (absorbs_closing depth) (accounted_tail rfl (ih (v :: acc)) (skipBlanks t))

/-- Members are accounted for up to the closing brace, if each of their values is. -/
theorem accounted_members (hitem : ∀ s, Accounted reserve (Nested depth) depth s (item s)) (fuel : Nat)
    (acc : List (List CodePoint × Json)) (s : List CodePoint) :
    Accounted reserve (Closing depth) depth s (members item fuel acc s) := by
  induction fuel generalizing acc s with
  | zero => exact .fault _ _
  | succ fuel ih =>
    unfold members
    split
    · exact .fault _ _
    next q t =>
    split
    · exact .fault _ _
    next hq =>
    have hname : Accounted reserve (Nested depth) depth (q :: t) (string t) :=
      accounted_string (by simpa using hq) t
    refine hname.andThen (absorbs_closing depth) (fun e he => by rw [he]) fun name u hu => ?_
    simp only [hu]
    refine .of_skipBlanks (absorbs_closing depth) ?_
    split
    · exact .fault _ _
    next c v hv =>
    split
    · exact .fault _ _
    next hc =>
    have hcolon : c.is ':' = true := by simpa using hc
    rw [hv]
    refine .of_separator (bare_of_is hcolon (by decide)) ?_
    refine (hitem (skipBlanks v)).andThen (absorbs_closing depth) (fun e he => by rw [he]) fun x y hy => ?_
    rw [hy]
    exact .of_skipBlanks (absorbs_closing depth) (accounted_tail rfl (ih ((name, x) :: acc)) (skipBlanks y))

/-- A bracket that opens an array or an object is one too many where none may be opened any more. -/
theorem crowded_zero (h : isOpening p = true) (s : List CodePoint) : Crowded reserve 0 (p :: s) := by
  refine ⟨[p], ?_, .inl ?_⟩
  · rw [outline_cons (quote_of_isOpening h)]
    exact List.prefix_append [p] _
  · rw [level_cons_opening h]
    decide

/-- An opening bracket is followed by the closing one, or by what is inside. -/
theorem accounted_inside {c : Char} {v : Json} {f : Fault} {inside : List CodePoint → Reading Json}
    (hc : isClosing (CodePoint.ofChar c) = true)
    (hinside : ∀ s, Accounted reserve (Closing depth) depth s (inside s)) (s : List CodePoint) :
    Accounted reserve (Closing depth) depth s
      (match skipBlanks s with
        | [] => halt f []
        | q :: t => if q.is c then .ok (v, t) else inside (q :: t)) := by
  refine .of_skipBlanks (absorbs_closing depth) ?_
  split
  · exact .fault _ _
  next q t ht =>
  rw [ht]
  split
  · next hq => exact accounted_closing (eq_ofChar_of_is hq ▸ hc) t
  · exact hinside (q :: t)

theorem accounted_array (hitem : ∀ s, Accounted reserve (Nested depth) depth s (item s))
    (s : List CodePoint) : Accounted reserve (Closing depth) depth s (array item s) :=
  accounted_inside rfl (accounted_items hitem (s.length + 1) []) s

theorem accounted_object (hitem : ∀ s, Accounted reserve (Nested depth) depth s (item s))
    (s : List CodePoint) : Accounted reserve (Closing depth) depth s (object item s) :=
  accounted_inside rfl (accounted_members hitem (s.length + 1) []) s

/-- Nothing may be inside brackets where nothing may be nested any more. -/
theorem accounted_brackets {inside : Nat → List CodePoint → Reading Json} (hp : isOpening p = true)
    (hinside : ∀ m < depth, ∀ s, Accounted reserve (Closing m) m s (inside m s)) (s : List CodePoint) :
    Accounted reserve (Nested depth) depth (p :: s)
      (match depth with
        | 0 => .error .tooDeep
        | m + 1 => reported reserve m (inside m s)) := by
  split
  · exact .tooDeep (crowded_zero hp s)
  · next m => exact .enclose hp (hinside m (Nat.lt_succ_self m) s).reported

/-- **What the reader makes of a text shows in the outline of the text.** -/
theorem accounted_value (reserve : Fault → Nat) (depth : Nat) (s : List CodePoint) :
    Accounted reserve (Nested depth) depth s (value reserve depth s) := by
  -- What is read inside brackets may nest by one less, so the induction is on the depth.
  induction depth using Nat.strongRecOn generalizing s with
  | ind depth ih =>
    unfold value
    split
    · exact Accounted.reported (.fault _ _)
    next p s =>
    split
    · next hquote =>
      refine .reported ((accounted_string hquote s).andThen (absorbs_nested depth)
        (fun e he => by rw [he]) fun text t ht => ?_)
      rw [ht]
      exact .of_bare (by simp) (List.nil_append t).symm
    split
    · next hp =>
      exact accounted_brackets (by simp [isOpening, hp]) (fun m hm => accounted_array (ih m hm)) s
    split
    · next hp =>
      exact accounted_brackets (by simp [isOpening, hp]) (fun m hm => accounted_object (ih m hm)) s
    · exact (accounted_scalar (p :: s)).reported

/-- What is left of a document after its value are blanks, which change nothing. -/
theorem accounted_document (room : Room) (s : List CodePoint) :
    Accounted room.reserve (Nested room.nesting) room.nesting s (document room s) := by
  have hvalue : Accounted room.reserve (Nested room.nesting) room.nesting s
      (value room.reserve room.nesting (skipBlanks s)) :=
    (accounted_value room.reserve room.nesting (skipBlanks s)).of_skipBlanks
      (absorbs_nested room.nesting)
  unfold document
  split
  · exact .fault _ _
  split
  · exact .fault _ _
  refine hvalue.andThen (absorbs_nested room.nesting) (fun e he => by rw [he]) fun v t ht => ?_
  simp only [ht]
  refine .of_skipBlanks (absorbs_nested room.nesting) ?_
  split
  · next hblank =>
    rw [hblank]
    exact .of_bare (by simp) (List.nil_append []).symm
  · exact .fault _ _

end Values

end Json

end RuleRegex
