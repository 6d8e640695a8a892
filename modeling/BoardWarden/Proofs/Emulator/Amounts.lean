import Mathlib.Data.List.DropRight
import Mathlib.Data.Nat.Digits.Defs
import BoardWarden.Emulator.Command

set_option autoImplicit false

namespace BoardWarden

namespace Text

def Denotes (digits : List Char) (n : Nat) : Prop :=
  digits ≠ [] ∧ (∀ c ∈ digits, '0' ≤ c ∧ c ≤ '9') ∧
    n = Nat.ofDigits 10 (digits.reverse.map fun c => c.toNat - '0'.toNat)

def Numeral (limit : Nat) (cs : List Char) (n : Nat) : Prop :=
  n < limit ∧ ∃ digits, (cs = digits ∨ cs = '+' :: digits) ∧ Denotes digits n

variable {limit n : Nat} {cs : List Char}

theorem isDigit_iff (c : Char) : c.isDigit = true ↔ '0' ≤ c ∧ c ≤ '9' := by
  simp only [Char.isDigit, Bool.and_eq_true, decide_eq_true_eq]
  exact Iff.rfl

theorem valueOf_eq (cs : List Char) :
    valueOf cs = Nat.ofDigits 10 (cs.reverse.map fun c => c.toNat - '0'.toNat) := by
  induction cs using List.reverseRecOn with
  | nil => rfl
  | append_singleton cs c ih =>
    rw [List.reverse_append, List.reverse_singleton, List.singleton_append, List.map_cons,
      Nat.ofDigits_cons, ← ih, valueOf, List.foldl_append, List.foldl_cons, List.foldl_nil, ← valueOf]
    exact (Nat.add_comm _ _).trans (congrArg _ (Nat.mul_comm _ _))

theorem digits?_eq_some_iff : digits? cs = some n ↔ Denotes cs n := by
  have digits : cs.all Char.isDigit = true ↔ ∀ c ∈ cs, '0' ≤ c ∧ c ≤ '9' := by
    simp only [List.all_eq_true, isDigit_iff]
  rw [digits?, Denotes, ← valueOf_eq, ← digits]
  cases cs with
  | nil => simp
  | cons c cs =>
    rw [List.isEmpty_cons, if_neg Bool.false_ne_true]
    split
    · rename_i all
      simp only [all, Option.some.injEq, ne_eq, reduceCtorEq, not_false_eq_true, true_and, eq_comm]
    · rename_i stray
      simp [stray]

theorem unsigned?_eq_some_iff : unsigned? limit cs = some n ↔ Numeral limit cs n := by
  have read : ∀ digits, (digits? digits).filter (fun n => decide (n < limit)) = some n ↔
      n < limit ∧ Denotes digits n := fun digits => by
    rw [Option.filter_eq_some_iff, digits?_eq_some_iff, decide_eq_true_eq, and_comm]
  simp only [unsigned?, read, Numeral]
  refine and_congr_right fun _ => ?_
  split
  · rename_i rest
    refine ⟨fun denotes => ⟨rest, .inr rfl, denotes⟩, ?_⟩
    rintro ⟨digits, rfl | same, denotes⟩
    · have sign := denotes.2.1 '+' (List.mem_cons_self)
      exact absurd sign (by decide)
    · rwa [(List.cons.inj same).2]
  · rename_i unsigned
    refine ⟨fun denotes => ⟨cs, .inl rfl, denotes⟩, ?_⟩
    rintro ⟨digits, rfl | same, denotes⟩
    · exact denotes
    · exact absurd same (unsigned digits)

theorem Numeral.ends (numeral : Numeral limit cs n) :
    ∃ most last, cs = most ++ [last] ∧ '0' ≤ last ∧ last ≤ '9' := by
  obtain ⟨_, digits, written, some, all, _⟩ := numeral
  obtain ⟨most, last, rfl⟩ := (List.eq_nil_or_concat digits).resolve_left some
  have digit := all last (by simp)
  rcases written with rfl | rfl
  · exact ⟨most, last, by simp, digit⟩
  · exact ⟨'+' :: most, last, by simp, digit⟩

theorem Numeral.rdropWhile (numeral : Numeral limit cs n) (count : Nat) :
    (cs ++ List.replicate count 's').rdropWhile (· == 's') = cs := by
  induction count with
  | zero =>
    obtain ⟨most, last, rfl, digit⟩ := numeral.ends
    have other : last ≠ 's' := fun same => by
      subst same
      exact absurd digit (by decide)
    rw [List.replicate_zero, List.append_nil, List.rdropWhile_concat_neg _ _ _ (by simpa using other)]
  | succ count ih =>
    rw [List.replicate_succ', ← List.append_assoc, List.rdropWhile_concat_pos _ _ _ (by simp), ih]

/-- What is left without the `s` at the end is a numeral just in case the text is one with them. -/
theorem numeral_rdropWhile_iff : Numeral limit (cs.rdropWhile (· == 's')) n ↔
    ∃ numeral count, Numeral limit numeral n ∧ cs = numeral ++ List.replicate count 's' := by
  constructor
  · intro numeral
    refine ⟨_, (cs.rtakeWhile (· == 's')).length, numeral, ?_⟩
    have units : cs.rtakeWhile (· == 's') = List.replicate (cs.rtakeWhile (· == 's')).length 's' :=
      List.eq_replicate_iff.2 ⟨rfl, fun c listed => by simpa using List.mem_rtakeWhile_imp listed⟩
    rw [← units, List.rdropWhile_append_rtakeWhile]
  · rintro ⟨numeral, count, written, rfl⟩
    rwa [written.rdropWhile]

end Text

namespace Emulator

open Text (Numeral)

inductive Amount where
  | millis (n : Nat)
  | seconds (n : Nat)

namespace Amount

def span : Amount → Span
  | millis n => .ofMillis n
  | seconds n => .ofSeconds n

/-- Milliseconds are a number with `ms` after it; seconds have any number of `s` after theirs. -/
def Written (text : String) : Amount → Prop
  | millis n => ∃ numeral, Numeral amountLimit numeral n ∧ text.toList = numeral ++ ['m', 's']
  | seconds n => ∃ numeral count, Numeral amountLimit numeral n ∧
      text.toList = numeral ++ List.replicate count 's'

end Amount

variable {text : String} {n : Nat}

def InMillis (text : String) : Prop := ['m', 's'] <:+ text.toList

theorem span?_millis {numeral : List Char} (ends : text.toList = numeral ++ ['m', 's']) :
    span? text = (Text.unsigned? amountLimit numeral).map Span.ofMillis := by
  simp [span?, ends, spanOfReversed]

theorem span?_seconds (ends : ¬ InMillis text) : span? text =
    (Text.unsigned? amountLimit (text.toList.rdropWhile (· == 's'))).map Span.ofSeconds := by
  simp only [span?, spanOfReversed, List.rdropWhile]
  split
  · rename_i rest same
    refine absurd ⟨rest.reverse, ?_⟩ ends
    simpa using (congrArg List.reverse same).symm
  · rfl

theorem Amount.Written.not_inMillis (written : (Amount.seconds n).Written text) : ¬ InMillis text := by
  rintro ⟨rest, ends⟩
  obtain ⟨numeral, count, number, same⟩ := written
  obtain ⟨most, last, rfl, digit⟩ := number.ends
  have cut : text.toList = (rest ++ ['m']) ++ ['s'] := by simp [← ends]
  have stripped := number.rdropWhile count
  rw [← same, cut, List.rdropWhile_concat_pos _ _ _ (by simp),
    List.rdropWhile_concat_neg _ _ _ (by simp)] at stripped
  obtain rfl : 'm' = last := by simpa using (List.append_inj' stripped rfl).2
  exact absurd digit (by decide)

theorem ofMillis_injective {m : Nat} (same : Span.ofMillis m = Span.ofMillis n) : m = n := by
  have nanos := congrArg Span.nanos same
  simp only [Span.ofMillis] at nanos
  omega

theorem ofSeconds_injective {m : Nat} (same : Span.ofSeconds m = Span.ofSeconds n) : m = n := by
  have nanos := congrArg Span.nanos same
  simp only [Span.ofSeconds] at nanos
  omega

theorem written_of_inMillis {span : Span} (ends : InMillis text) (read : span? text = some span) :
    ∃ n, (Amount.millis n).Written text ∧ Span.ofMillis n = span := by
  obtain ⟨numeral, cut⟩ := ends
  rw [span?_millis cut.symm] at read
  obtain ⟨n, number, same⟩ := Option.map_eq_some_iff.1 read
  exact ⟨n, ⟨numeral, Text.unsigned?_eq_some_iff.1 number, cut.symm⟩, same⟩

theorem written_of_not_inMillis {span : Span} (ends : ¬ InMillis text) (read : span? text = some span) :
    ∃ n, (Amount.seconds n).Written text ∧ Span.ofSeconds n = span := by
  rw [span?_seconds ends] at read
  obtain ⟨n, number, same⟩ := Option.map_eq_some_iff.1 read
  exact ⟨n, Text.numeral_rdropWhile_iff.1 (Text.unsigned?_eq_some_iff.1 number), same⟩

theorem written_millis_iff :
    (Amount.millis n).Written text ↔ InMillis text ∧ span? text = some (Span.ofMillis n) := by
  constructor
  · rintro ⟨numeral, number, ends⟩
    refine ⟨⟨numeral, ends.symm⟩, ?_⟩
    rw [span?_millis ends, Text.unsigned?_eq_some_iff.2 number]
    rfl
  · rintro ⟨ends, read⟩
    obtain ⟨m, written, same⟩ := written_of_inMillis ends read
    rwa [← ofMillis_injective same]

theorem written_seconds_iff :
    (Amount.seconds n).Written text ↔ ¬ InMillis text ∧ span? text = some (Span.ofSeconds n) := by
  constructor
  · intro written
    have ends := written.not_inMillis
    refine ⟨ends, ?_⟩
    rw [span?_seconds ends, Text.unsigned?_eq_some_iff.2 (Text.numeral_rdropWhile_iff.2 written)]
    rfl
  · rintro ⟨ends, read⟩
    obtain ⟨m, written, same⟩ := written_of_not_inMillis ends read
    rwa [← ofSeconds_injective same]

theorem span?_eq_some_iff {span : Span} :
    span? text = some span ↔ ∃ amount : Amount, amount.Written text ∧ amount.span = span := by
  constructor
  · intro read
    by_cases ends : InMillis text
    · obtain ⟨n, written⟩ := written_of_inMillis ends read
      exact ⟨.millis n, written⟩
    · obtain ⟨n, written⟩ := written_of_not_inMillis ends read
      exact ⟨.seconds n, written⟩
  · rintro ⟨amount | amount, written, rfl⟩
    · exact (written_millis_iff.1 written).2
    · exact (written_seconds_iff.1 written).2

example : span? "+07sss" = some (Span.ofSeconds 7) := by decide +kernel

theorem Amount.Written.unique {amount other : Amount} (written : amount.Written text)
    (again : other.Written text) : amount = other := by
  cases amount with
  | millis n =>
    obtain ⟨ends, read⟩ := written_millis_iff.1 written
    cases other with
    | millis m =>
      rw [(written_millis_iff.1 again).2] at read
      exact congrArg Amount.millis (ofMillis_injective (Option.some.inj read)).symm
    | seconds m => exact absurd ends again.not_inMillis
  | seconds n =>
    obtain ⟨ends, read⟩ := written_seconds_iff.1 written
    cases other with
    | millis m => exact absurd (written_millis_iff.1 again).1 ends
    | seconds m =>
      rw [(written_seconds_iff.1 again).2] at read
      exact congrArg Amount.seconds (ofSeconds_injective (Option.some.inj read)).symm

theorem parseAmount_eq_ok_iff {span : Span} : parseAmount text = .ok span ↔ span? text = some span := by
  simp only [parseAmount]
  split <;> rename_i read <;> simp [read]

theorem parseAmount_eq_error (unread : span? text = none) :
    parseAmount text = .error (.duration text) := by
  simp only [parseAmount, unread]

theorem Complaint.duration_text (text : String) :
    (Complaint.duration text).text = "invalid duration `" ++ text ++ "`" := by
  have opening : "invalid duration " ++ "`" = "invalid duration `" := by decide +kernel
  change "invalid duration " ++ ("`" ++ text ++ "`") = _
  rw [← String.append_assoc, ← String.append_assoc, opening]

/-- A text is accepted just in case it is written as an amount, in milliseconds or in seconds and never in
both; any other is named in the complaint. A second is as long as a thousand milliseconds, so it is the
ending of the text that tells in which of the two ways it was accepted. -/
theorem parseAmount_accepts (text : String) :
    (∀ n, (Amount.millis n).Written text ↔
      InMillis text ∧ parseAmount text = .ok (Span.ofMillis n)) ∧
    (∀ n, (Amount.seconds n).Written text ↔
      ¬ InMillis text ∧ parseAmount text = .ok (Span.ofSeconds n)) ∧
    (∀ span, parseAmount text = .ok span ↔
      ∃ amount : Amount, amount.Written text ∧ amount.span = span) ∧
    ((∀ amount : Amount, ¬ amount.Written text) ↔ parseAmount text = .error (.duration text)) ∧
    (Complaint.duration text).text = "invalid duration `" ++ text ++ "`" ∧
    ∀ amount other : Amount, amount.Written text → other.Written text → amount = other := by
  refine ⟨fun n => ?_, fun n => ?_, fun span => ?_, ?_, Complaint.duration_text text,
    fun _ _ written => written.unique⟩
  · rw [parseAmount_eq_ok_iff, written_millis_iff]
  · rw [parseAmount_eq_ok_iff, written_seconds_iff]
  · rw [parseAmount_eq_ok_iff, span?_eq_some_iff]
  · constructor
    · intro unwritten
      refine parseAmount_eq_error (Option.eq_none_iff_forall_ne_some.2 fun span read => ?_)
      obtain ⟨amount, written, _⟩ := span?_eq_some_iff.1 read
      exact unwritten amount written
    · intro refused amount written
      rw [parseAmount_eq_ok_iff.2 (span?_eq_some_iff.2 ⟨amount, written, rfl⟩)] at refused
      cases refused

end Emulator

end BoardWarden
