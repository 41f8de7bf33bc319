import FrameWatch.Text.Json
import Mathlib.Data.List.Basic
import Mathlib.Data.List.Infix
import Mathlib.Tactic.Common

/-!
# Keys in written documents

Every field of a written document stands on a line of its own, so that the keys of an object can be
read off the lines of its written form.

1. `Json.Shows` says that a line of a text begins with a key of the outermost object.
2. Texts and numbers never break a line, and what lies deeper is indented further. All of it is
   passed over (`Json.Hides`) where the outermost keys are looked for.
3. `Json.shows_object_iff`: a written object shows the keys of its fields and no others.
   `Json.line_infix_write`: behind each key stands the value of the field.
-/

namespace FrameWatch

/-! ## Texts on one line -/

/-- The text stays on its line. -/
def Unbroken (s : String) : Prop := '\n' ∉ s.toList

namespace Unbroken

theorem append {s t : String} (hs : Unbroken s) (ht : Unbroken t) : Unbroken (s ++ t) := by
  unfold Unbroken
  rw [String.toList_append, List.mem_append]
  exact not_or.mpr ⟨hs, ht⟩

theorem ofList {cs : List Char} (h : '\n' ∉ cs) : Unbroken (String.ofList cs) := by
  unfold Unbroken
  rwa [String.toList_ofList]

theorem ite {p : Prop} [Decidable p] {s t : String} (hs : Unbroken s) (ht : Unbroken t) :
    Unbroken (if p then s else t) := by split <;> assumption

theorem natural (n : ℕ) : Unbroken (toString n) := by
  rw [Nat.toString_eq_ofList_toDigits]
  refine ofList fun hmem => ?_
  have hdigit := Nat.isDigit_of_mem_toDigits (by decide) le_rfl hmem
  revert hdigit
  decide

theorem integer (n : ℤ) : Unbroken (toString n) := by
  cases n with
  | ofNat n => exact natural n
  | negSucc n =>
    have hminus : Unbroken "-" := by unfold Unbroken; decide
    exact hminus.append (natural (n + 1))

end Unbroken

namespace Decimal

theorem unbroken_zeros (count : ℕ) : Unbroken (zeros count) :=
  .ofList fun hmem => absurd (List.eq_of_mem_replicate hmem) (by decide)

theorem unbroken_take {s : String} (h : Unbroken s) (n : ℕ) :
    Unbroken (String.ofList (s.toList.take n)) :=
  .ofList fun hmem => h (List.mem_of_mem_take hmem)

theorem unbroken_drop {s : String} (h : Unbroken s) (n : ℕ) :
    Unbroken (String.ofList (s.toList.drop n)) :=
  .ofList fun hmem => h (List.mem_of_mem_drop hmem)

theorem unbroken_positional (s : Scientific) : Unbroken (positional s) := by
  have hdigits := Unbroken.natural s.digits
  have hpoint : Unbroken "." := by unfold Unbroken; decide
  have hzero : Unbroken "0." := by unfold Unbroken; decide
  exact .ite (hdigits.append (unbroken_zeros _))
    (.ite (((unbroken_take hdigits _).append hpoint).append (unbroken_drop hdigits _))
      ((hzero.append (unbroken_zeros _)).append hdigits))

theorem unbroken_withPower (s : Scientific) : Unbroken (withPower s) := by
  have hdigits := Unbroken.natural s.digits
  have hpoint : Unbroken "." := by unfold Unbroken; decide
  have hnone : Unbroken "" := by unfold Unbroken; decide
  have hminus : Unbroken "e-" := by unfold Unbroken; decide
  have hplus : Unbroken "e+" := by unfold Unbroken; decide
  exact (((unbroken_take hdigits 1).append
    (.ite hnone (hpoint.append (unbroken_drop hdigits 1)))).append
    (.ite hminus hplus)).append (.natural _)

theorem unbroken_jsonMagnitude (b : Binary) : Unbroken (jsonMagnitude b) := by
  have hzero : Unbroken "0.0" := by unfold Unbroken; decide
  have hwhole : Unbroken ".0" := by unfold Unbroken; decide
  exact .ite hzero (.ite (.ite ((unbroken_positional _).append hwhole) (unbroken_positional _))
    (unbroken_withPower _))

theorem unbroken_json (x : Float) : Unbroken (json x) := by
  have hnull : Unbroken "null" := by unfold Unbroken; decide
  have hminus : Unbroken "-" := by unfold Unbroken; decide
  have hnone : Unbroken "" := by unfold Unbroken; decide
  unfold json
  split
  · exact hnull
  · exact hnull
  · exact (Unbroken.ite hminus hnone).append (unbroken_jsonMagnitude _)

end Decimal

namespace Json

theorem newline_not_mem_controlEscape {c : Char} (h : c.toNat < 32) :
    '\n' ∉ controlEscape c := by
  have hdigits : ∀ n < 32, '\n' ∉ Nat.toDigits 16 n := by decide
  unfold controlEscape
  simp only [List.mem_append, List.mem_replicate, not_or]
  exact ⟨⟨by decide, fun hzero => absurd hzero.2 (by decide)⟩, hdigits _ h⟩

theorem newline_not_mem_escapeChar (c : Char) : '\n' ∉ escapeChar c := by
  unfold escapeChar
  split_ifs with _ _ hbreak _ _ _ _ hcontrol
  any_goals decide
  · exact newline_not_mem_controlEscape hcontrol
  · rw [List.mem_singleton]
    exact fun h => hbreak h.symm

theorem unbroken_quote (s : String) : Unbroken (quote s) := by
  refine .ofList ?_
  simp only [List.cons_append, List.mem_cons, List.mem_append, List.mem_flatMap, List.not_mem_nil,
    or_false, not_or, not_exists, not_and]
  exact ⟨by decide, fun c _ => newline_not_mem_escapeChar c, by decide⟩

/-! ## Lines that begin with a key -/

/-- How the line of a field of the outermost object begins. -/
def opening (key : String) : List Char := ' ' :: ' ' :: (quote key ++ ": ").toList

/-- A line of the text begins with a key of the outermost object. -/
def Shows (text key : String) : Prop := ('\n' :: opening key) <:+: text.toList

/-- No line in the text begins so, nor does one that goes on behind it. -/
def Hides (xs : List Char) : Prop :=
  ∀ key ys, ('\n' :: opening key) <:+: xs ++ ys ↔ ('\n' :: opening key) <:+: ys

section Hides

variable {xs ys : List Char}

theorem Hides.append (hxs : Hides xs) (hys : Hides ys) : Hides (xs ++ ys) := fun key zs => by
  rw [List.append_assoc, hxs, hys]

theorem hides_cons {c : Char} (hc : c ≠ '\n') (hxs : Hides xs) : Hides (c :: xs) :=
  fun key zs => by
    rw [List.cons_append, List.infix_cons_iff, List.cons_prefix_cons, hxs]
    exact or_iff_right fun h => hc h.1.symm

theorem hides_of_not_mem (h : '\n' ∉ xs) : Hides xs := by
  induction xs with
  | nil => exact fun _ _ => Iff.rfl
  | cons c xs ih =>
    rw [List.mem_cons, not_or] at h
    exact hides_cons (Ne.symm h.1) (ih h.2)

/-- A line that begins with two blanks and no quote behind them. -/
theorem hides_break {c : Char} (hc : c ≠ '"') (hxs : Hides (c :: xs)) :
    Hides ('\n' :: ' ' :: ' ' :: c :: xs) := fun key zs => by
  have hother : ¬ ('\n' :: opening key) <+: '\n' :: ' ' :: ' ' :: c :: (xs ++ zs) := by
    intro h
    simp only [opening, quote, List.cons_prefix_cons, String.toList_append, String.toList_ofList,
      List.cons_append, true_and] at h
    exact hc h.1.symm
  have hblanks : Hides (' ' :: ' ' :: c :: xs) :=
    hides_cons (by decide) (hides_cons (by decide) hxs)
  rw [List.cons_append, List.infix_cons_iff, hblanks]
  exact or_iff_right hother

end Hides

theorem toList_newline (depth : ℕ) :
    (newline depth).toList = '\n' :: List.replicate (2 * depth) ' ' := by
  unfold newline
  simp only [String.toList_append, String.toList_ofList]
  rfl

theorem hides_blanks (count : ℕ) : Hides (List.replicate count ' ') :=
  hides_of_not_mem fun hmem => absurd (List.eq_of_mem_replicate hmem) (by decide)

theorem hides_newline {depth : ℕ} (h : 2 ≤ depth) : Hides (newline depth).toList := by
  obtain ⟨n, rfl⟩ := Nat.exists_eq_add_of_le h
  have hcount : 2 * (2 + n) = 2 * n + 1 + 1 + 1 + 1 := by omega
  rw [toList_newline, hcount]
  exact hides_break (by decide) (hides_blanks (2 * n + 1 + 1))

/-- The line that closes a list or an object inside of another. -/
theorem hides_closing {depth : ℕ} (h : 1 ≤ depth) {c : Char} (hquote : c ≠ '"')
    (hbreak : c ≠ '\n') : Hides ((newline depth).toList ++ [c]) := by
  have hc : Hides [c] := hides_cons hbreak (hides_of_not_mem (by simp))
  obtain rfl | hdeep := h.eq_or_lt
  · rw [toList_newline]
    exact hides_break hquote hc
  · exact (hides_newline hdeep).append hc

/-! ## Written documents -/

theorem hides_of_unbroken {s : String} (h : Unbroken s) : Hides s.toList := hides_of_not_mem h

mutual

/-- What lies inside of another document is passed over. -/
theorem hides_writeAt {depth : ℕ} (h : 1 ≤ depth) : (v : Json) → Hides (v.writeAt depth).toList
  | .text s => hides_of_unbroken (unbroken_quote s)
  | .integer n => hides_of_unbroken (.integer n)
  | .real x => hides_of_unbroken (Decimal.unbroken_json x)
  | .list [] => hides_of_unbroken (by unfold Unbroken writeAt; decide)
  | .list (item :: items) => by
    have hopen : Hides "[".toList := hides_of_not_mem (by decide)
    have hclose : Hides ((newline depth).toList ++ "]".toList) :=
      hides_closing h (by decide) (by decide)
    simp only [writeAt, String.toList_append, List.append_assoc]
    exact hopen.append ((hides_newline (by omega)).append
      ((hides_writeAt (by omega) item).append ((hides_writeItems h items).append hclose)))
  | .object [] => hides_of_unbroken (by unfold Unbroken writeAt; decide)
  | .object ((key, value) :: fields) => by
    have hopen : Hides "\x7b".toList := hides_of_not_mem (by decide)
    have hcolon : Hides ": ".toList := hides_of_not_mem (by decide)
    have hclose : Hides ((newline depth).toList ++ "\x7d".toList) :=
      hides_closing h (by decide) (by decide)
    simp only [writeAt, String.toList_append, List.append_assoc]
    exact hopen.append ((hides_newline (by omega)).append
      ((hides_of_unbroken (unbroken_quote key)).append (hcolon.append
        ((hides_writeAt (by omega) value).append ((hides_writeFields h fields).append hclose)))))

theorem hides_writeItems {depth : ℕ} (h : 1 ≤ depth) :
    (items : List Json) → Hides (writeItems depth items).toList
  | [] => hides_of_unbroken (by unfold Unbroken writeItems; decide)
  | item :: items => by
    have hcomma : Hides ",".toList := hides_of_not_mem (by decide)
    simp only [writeItems, String.toList_append, List.append_assoc]
    exact hcomma.append ((hides_newline (by omega)).append
      ((hides_writeAt (by omega) item).append (hides_writeItems h items)))

theorem hides_writeFields {depth : ℕ} (h : 1 ≤ depth) :
    (fields : List (String × Json)) → Hides (writeFields depth fields).toList
  | [] => hides_of_unbroken (by unfold Unbroken writeFields; decide)
  | (key, value) :: fields => by
    have hcomma : Hides ",".toList := hides_of_not_mem (by decide)
    have hcolon : Hides ": ".toList := hides_of_not_mem (by decide)
    simp only [writeFields, String.toList_append, List.append_assoc]
    exact hcomma.append ((hides_newline (by omega)).append
      ((hides_of_unbroken (unbroken_quote key)).append (hcolon.append
        ((hides_writeAt (by omega) value).append (hides_writeFields h fields)))))

end

/-! ## Keys -/

/-- No character of the text is escaped where it is quoted. -/
def Simple (s : String) : Prop := ∀ c ∈ s.toList, escapeChar c = [c]

instance : DecidablePred Simple := fun s => List.decidableBAll _ s.toList

theorem quote_of_simple {s : String} (h : Simple s) : quote s = "\"" ++ s ++ "\"" := by
  have hbody : s.toList.flatMap escapeChar = s.toList := by
    rw [List.flatMap_congr h, List.flatMap_singleton']
  unfold quote
  rw [hbody, ← String.toList_inj, String.toList_ofList, String.toList_append,
    String.toList_append]
  rfl

theorem escapeChar_of_plain {c : Char} (h : c.isAlphanum = true ∨ c = ' ') :
    escapeChar c = [c] := by
  have hother {e : Char} (he : (e.isAlphanum || e == ' ') = false) : c ≠ e := by
    rintro rfl
    rcases h with h | h <;> simp [h] at he
  have hcontrol : ¬ c.toNat < 32 := fun hlt => by
    have hnone : ∀ n < 32, ((Char.ofNat n).isAlphanum || Char.ofNat n == ' ') = false := by decide
    have hc := hnone c.toNat hlt
    rw [Char.ofNat_toNat] at hc
    exact hother hc rfl
  unfold escapeChar
  rw [if_neg (hother (by decide)), if_neg (hother (by decide)), if_neg (hother (by decide)),
    if_neg (hother (by decide)), if_neg (hother (by decide)), if_neg (hother (by decide)),
    if_neg (hother (by decide)), if_neg hcontrol]

/-- Letters, digits and blanks are quoted as they are. -/
theorem simple_of_plain {s : String} (h : ∀ c ∈ s.toList, c.isAlphanum = true ∨ c = ' ') :
    Simple s := fun c hc => escapeChar_of_plain (h c hc)

theorem Simple.takeWhile {s : String} (h : Simple s) (xs : List Char) :
    (s.toList ++ '"' :: xs).takeWhile (· != '"') = s.toList := by
  have hall : ∀ c ∈ s.toList, (c != '"') = true := by
    intro c hc
    rw [bne_iff_ne]
    rintro rfl
    exact absurd (h _ hc) (by decide)
  rw [List.takeWhile_append_of_pos hall, List.takeWhile_cons_of_neg (by decide), List.append_nil]

/-- Two openings that begin alike are of the same key. -/
theorem opening_prefix_iff {key key' : String} (hkey : Simple key) (hkey' : Simple key')
    (xs : List Char) : opening key <+: opening key' ++ xs ↔ key = key' := by
  have htext : ∀ {k}, Simple k →
      opening k = ' ' :: ' ' :: '"' :: (k.toList ++ '"' :: [':', ' ']) := by
    intro k hk
    unfold opening
    rw [quote_of_simple hk]
    simp
  constructor
  · rintro ⟨ys, hys⟩
    rw [htext hkey, htext hkey'] at hys
    simp only [List.cons_append, List.append_assoc, List.cons.injEq, true_and] at hys
    rw [← String.toList_inj, ← hkey.takeWhile, hys, hkey'.takeWhile]
  · rintro rfl
    exact List.prefix_append _ _

/-- The line of a field of the outermost object. -/
def line (f : String × Json) : List Char := '\n' :: (opening f.1 ++ (f.2.writeAt 1).toList)

theorem toList_writeFields_cons (f : String × Json) (fields : List (String × Json)) :
    (writeFields 0 (f :: fields)).toList = ',' :: (line f ++ (writeFields 0 fields).toList) := by
  simp only [writeFields, String.toList_append, toList_newline, opening, line, List.append_assoc,
    List.cons_append]
  rfl

theorem toList_write_object (f : String × Json) (fields : List (String × Json)) :
    (object (f :: fields)).write.toList =
      '\x7b' :: (line f ++ (writeFields 0 fields).toList ++ (newline 0 ++ "\x7d").toList) := by
  simp only [write, writeAt, String.toList_append, toList_newline, opening, line,
    List.append_assoc, List.cons_append]
  rfl

/-- The fields behind the first one show their keys. -/
theorem shows_writeFields_iff {key : String} (hkey : Simple key) {fields : List (String × Json)}
    (hfields : ∀ f ∈ fields, Simple f.1) (xs : List Char) :
    ('\n' :: opening key) <:+: (writeFields 0 fields).toList ++ xs ↔
      key ∈ fields.map Prod.fst ∨ ('\n' :: opening key) <:+: xs := by
  induction fields with
  | nil => simp [writeFields]
  | cons f fields ih =>
    obtain ⟨key', value⟩ := f
    have hkey' : Simple key' := hfields (key', value) (by simp)
    have hopening : Hides (opening key') :=
      hides_cons (by decide) (hides_cons (by decide)
        (hides_of_unbroken ((unbroken_quote key').append (by unfold Unbroken; decide))))
    have hcomma : Hides [','] := hides_of_not_mem (by decide)
    have htext : (writeFields 0 ((key', value) :: fields)).toList ++ xs =
        [','] ++ '\n' :: (opening key' ++ ((value.writeAt 1).toList ++
          ((writeFields 0 fields).toList ++ xs))) := by
      rw [toList_writeFields_cons]
      simp [line]
    rw [htext, hcomma, List.infix_cons_iff, List.cons_prefix_cons, hopening,
      hides_writeAt le_rfl value, ih fun f hf => hfields f (by simp [hf]),
      opening_prefix_iff hkey hkey', List.map_cons, List.mem_cons, or_assoc]
    exact or_congr_left (and_iff_right rfl)

/-- **Keys.** A written object shows the keys of its fields and no others. -/
theorem shows_object_iff {key : String} (hkey : Simple key) {fields : List (String × Json)}
    (hfields : ∀ f ∈ fields, Simple f.1) :
    Shows (object fields).write key ↔ key ∈ fields.map Prod.fst := by
  have hclosing : ¬ ('\n' :: opening key) <:+: (newline 0 ++ "\x7d").toList := by
    rw [String.toList_append, toList_newline]
    simp [opening, List.infix_cons_iff]
  unfold Shows
  cases fields with
  | nil =>
    have hnone : Hides "\x7b\x7d".toList := hides_of_not_mem (by decide)
    rw [write, writeAt, ← List.append_nil "\x7b\x7d".toList, hnone]
    simp
  | cons f fields =>
    have hopen : Hides ['\x7b'] := hides_of_not_mem (by decide)
    have hcomma : Hides [','] := hides_of_not_mem (by decide)
    have hshows := shows_writeFields_iff hkey hfields (newline 0 ++ "\x7d").toList
    rw [or_iff_left hclosing, toList_writeFields_cons] at hshows
    rw [← hshows, toList_write_object]
    exact (hopen key _).trans (hcomma key _).symm

theorem line_infix_writeFields {f : String × Json} {fields : List (String × Json)}
    (h : f ∈ fields) : line f <:+: (writeFields 0 fields).toList := by
  induction fields with
  | nil => cases h
  | cons g fields ih =>
    rw [toList_writeFields_cons]
    rcases List.mem_cons.mp h with rfl | h
    · exact ⟨[','], (writeFields 0 fields).toList, by simp⟩
    · exact ((ih h).trans (List.suffix_append _ _).isInfix).trans (List.suffix_cons _ _).isInfix

/-- A written object has a line for each of its fields. -/
theorem line_infix_write {f : String × Json} {fields : List (String × Json)} (h : f ∈ fields) :
    line f <:+: (object fields).write.toList := by
  cases fields with
  | nil => cases h
  | cons g fields =>
    rw [toList_write_object]
    rcases List.mem_cons.mp h with rfl | h
    · exact ⟨['\x7b'], (writeFields 0 fields).toList ++ (newline 0 ++ "\x7d").toList, by simp⟩
    · obtain ⟨front, back, heq⟩ := line_infix_writeFields h
      exact ⟨'\x7b' :: (line g ++ front), back ++ (newline 0 ++ "\x7d").toList, by simp [← heq]⟩

end Json

end FrameWatch
