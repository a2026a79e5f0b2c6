import ImportLint.Json.Lexeme
import ImportLint.Json.Value
import Mathlib.Tactic.Common
import Mathlib.Tactic.IntervalCases

/-!
# Lexemes of written texts

What the lexer makes of the pieces that texts are written with. `Lexer.run` goes through the rest of a text up to its
end. For each piece one lemma says that the piece is a lexeme of its own and the lexer is between two lexemes behind it,
whatever stands before and behind it. A number is the only piece whose end the next character decides
(`Lexer.run_toDigits`), and a string comes back as it was before it was escaped (`Lexer.run_renderText`).
-/

namespace ImportLint.Json

open Document (Tree)
open Text (hexValue?)

namespace Lexer

/-- Goes through the rest of a text and its end. -/
def run (l : Lexer) (cs : List Char) : Lexer := (cs.foldl step l).finish

variable {done : List Lexeme} {rest : List Char}

theorem run_append (l : Lexer) (cs rest : List Char) : l.run (cs ++ rest) = (cs.foldl step l).run rest := by
  rw [run, run, List.foldl_append]

theorem lexemes_eq (cs : List Char) : lexemes cs = (run ⟨[], .between⟩ cs).done.reverse := rfl

theorem run_done (done : List Lexeme) : (run ⟨done, .between⟩ []).done = done := rfl

/-! ## Blanks, separators and words -/

theorem run_blank {c : Char} (h : isSpace c = true) : run ⟨done, .between⟩ (c :: rest) = run ⟨done, .between⟩ rest := by
  have hstep : step ⟨done, .between⟩ c = ⟨done, .between⟩ := if_pos h
  rw [run, List.foldl_cons, hstep, run]

theorem run_blanks {cs : List Char} (h : ∀ c ∈ cs, isSpace c = true) :
    run ⟨done, .between⟩ (cs ++ rest) = run ⟨done, .between⟩ rest := by
  induction cs with
  | nil => rfl
  | cons c cs ih =>
    rw [List.cons_append, run_blank (h c List.mem_cons_self)]
    exact ih fun d hd => h d (List.mem_cons_of_mem c hd)

theorem run_newLine (level : Nat) :
    run ⟨done, .between⟩ (Value.newLine level ++ rest) = run ⟨done, .between⟩ rest := by
  refine run_blanks fun c hc => ?_
  obtain rfl | hc := List.mem_cons.mp hc
  · rfl
  · rw [(List.mem_replicate.mp hc).2]
    rfl

theorem run_openList : run ⟨done, .between⟩ ('[' :: rest) = run ⟨.openList :: done, .between⟩ rest := rfl

theorem run_closeList : run ⟨done, .between⟩ (']' :: rest) = run ⟨.closeList :: done, .between⟩ rest := rfl

theorem run_openTable : run ⟨done, .between⟩ ('\x7b' :: rest) = run ⟨.openTable :: done, .between⟩ rest := rfl

theorem run_closeTable : run ⟨done, .between⟩ ('\x7d' :: rest) = run ⟨.closeTable :: done, .between⟩ rest := rfl

theorem run_comma : run ⟨done, .between⟩ (',' :: rest) = run ⟨.comma :: done, .between⟩ rest := rfl

theorem run_colon : run ⟨done, .between⟩ (':' :: rest) = run ⟨.colon :: done, .between⟩ rest := rfl

theorem run_null : run ⟨done, .between⟩ ("null".toList ++ rest) = run ⟨.scalar .null :: done, .between⟩ rest := rfl

theorem run_bool (b : Bool) :
    run ⟨done, .between⟩ ((if b then "true" else "false").toList ++ rest) =
      run ⟨.scalar (.bool b) :: done, .between⟩ rest := by
  cases b <;> rfl

/-! ## Strings -/

theorem hexValue?_hexChar {n : Nat} (h : n < 16) : hexValue? (hexChar n) = some n := by
  interval_cases n <;> rfl

theorem utf8Size_hexChar {n : Nat} (h : n < 16) : (hexChar n).utf8Size = 1 := by
  interval_cases n <;> rfl

/-- The escape by number of a control character is read as that character. -/
theorem foldl_escapedControl {c : Char} (hc : c.toNat < 0x20) (chars : List Char) :
    ['\\', 'u', '0', '0', hexChar (c.toNat / 16), hexChar (c.toNat % 16)].foldl step ⟨done, .text chars false .none⟩ =
      ⟨done, .text (c :: chars) false .none⟩ := by
  have hhigh : c.toNat / 16 < 16 := by omega
  have hlow : c.toNat % 16 < 16 := by omega
  have hvalue : 16 * (c.toNat / 16) + c.toNat % 16 = c.toNat := by omega
  -- behind the two zeros two of the four digits are still due
  have hzeros : ['\\', 'u', '0', '0'].foldl step ⟨done, .text chars false .none⟩ =
      ⟨done, .text chars false (.code none 2 0 true)⟩ := rfl
  have hdigit : step ⟨done, .text chars false (.code none 2 0 true)⟩ (hexChar (c.toNat / 16)) =
      ⟨done, .text chars false (.code none 3 (c.toNat / 16) true)⟩ := by
    simp [step, text, goOnText, hexValue?_hexChar hhigh, utf8Size_hexChar hhigh]
  have hend : step ⟨done, .text chars false (.code none 3 (c.toNat / 16) true)⟩ (hexChar (c.toNat % 16)) =
      escapeCode ⟨done, .text chars false (.code none 3 (c.toNat / 16) true)⟩ chars false none c.toNat := by
    simp [step, text, hexValue?_hexChar hlow, utf8Size_hexChar hlow, hvalue]
  rw [show ['\\', 'u', '0', '0', hexChar (c.toNat / 16), hexChar (c.toNat % 16)] =
    ['\\', 'u', '0', '0'] ++ [hexChar (c.toNat / 16), hexChar (c.toNat % 16)] from rfl, List.foldl_append, hzeros,
    List.foldl_cons, hdigit, List.foldl_cons, hend, List.foldl_nil, escapeCode]
  have hnotLow : ¬(0xDC00 ≤ c.toNat ∧ c.toNat ≤ 0xDFFF) := by omega
  have hnotHigh : ¬((0xD800 ≤ c.toNat ∧ c.toNat ≤ 0xDBFF) ∧ (!false) = true) := by omega
  simp only [if_neg hnotLow, if_neg hnotHigh, Char.ofNat_toNat, goOnText]

/-- A character is read as it was before it was escaped. -/
theorem foldl_escapeChar (c : Char) (chars : List Char) :
    (escapeChar c).foldl step ⟨done, .text chars false .none⟩ = ⟨done, .text (c :: chars) false .none⟩ := by
  unfold escapeChar
  split
  case h_8 hquote hbackslash _ _ _ _ _ =>
    split_ifs with hcontrol
    · exact foldl_escapedControl hcontrol chars
    · simp only [List.foldl_cons, List.foldl_nil, step, text, plainText, if_neg hquote, if_neg hbackslash,
        if_neg hcontrol, goOnText]
  all_goals rfl

theorem foldl_escapeChars (cs chars : List Char) :
    (cs.flatMap escapeChar).foldl step ⟨done, .text chars false .none⟩ =
      ⟨done, .text (cs.reverse ++ chars) false .none⟩ := by
  induction cs generalizing chars with
  | nil => rfl
  | cons c cs ih =>
    rw [List.flatMap_cons, List.foldl_append, foldl_escapeChar, ih, List.reverse_cons, List.append_assoc]
    rfl

/-- A written string is read as that string. -/
theorem run_renderText (s : String) :
    run ⟨done, .between⟩ (renderText s ++ rest) = run ⟨.text s :: done, .between⟩ rest := by
  have hopen : step ⟨done, .between⟩ '"' = ⟨done, .text [] false .none⟩ := rfl
  have hclose (chars : List Char) : step ⟨done, .text chars false .none⟩ '"' =
      ⟨.text (String.ofList chars.reverse) :: done, .between⟩ := rfl
  have hread : (renderText s).foldl step ⟨done, .between⟩ = ⟨.text s :: done, .between⟩ := by
    rw [renderText, List.cons_append, List.foldl_cons, hopen, List.foldl_append, foldl_escapeChars, List.foldl_cons,
      hclose, List.foldl_nil, List.append_nil, List.reverse_reverse, String.ofList_toList]
  rw [run_append, hread]

/-! ## Numbers -/

/-- The digits of a natural as the number that they write. -/
def naturalDigits (n : Nat) : Digits := ⟨false, (Nat.toDigits 10 n).map digitValue, [], false, []⟩

/-- The place inside a natural: nothing may follow a leading zero. -/
def naturalPlace (n : Nat) : NumberPlace := if n = 0 then .zero else .whole

theorem foldl_toDigits (n : Nat) :
    (Nat.toDigits 10 n).foldl step ⟨done, .between⟩ = ⟨done, .number (naturalPlace n) (naturalDigits n).reverse⟩ := by
  induction n using Nat.strong_induction_on with
  | _ n ih =>
    by_cases hn : n < 10
    · rw [naturalDigits, Nat.toDigits_of_lt_base hn]
      interval_cases n <;> rfl
    · have hlast : n % 10 < 10 := by omega
      have hplace : naturalPlace (n / 10) = .whole := if_neg (by omega)
      have hplace' : naturalPlace n = .whole := if_neg (by omega)
      rw [naturalDigits, Nat.toDigits_of_base_le (by decide) (by omega), List.foldl_append, ih (n / 10) (by omega),
        hplace, hplace', naturalDigits, List.map_append]
      simp only [List.foldl_cons, List.foldl_nil, Digits.reverse, List.reverse_append]
      generalize (Nat.toDigits 10 (n / 10)).map digitValue = ds
      interval_cases n % 10 <;> rfl

/-- The characters do not go on with a number. -/
def EndsNumber (cs : List Char) : Prop := ∀ c ∈ cs.head?, c.isDigit = false ∧ c ≠ '.' ∧ c ≠ 'e' ∧ c ≠ 'E'

/-- What does not go on with a natural ends it. -/
theorem run_number (n : Nat) (h : EndsNumber rest) :
    run ⟨done, .number (naturalPlace n) (naturalDigits n).reverse⟩ rest =
      run ⟨.scalar (naturalDigits n).tree :: done, .between⟩ rest := by
  have hreverse : (naturalDigits n).reverse.reverse = naturalDigits n := by
    simp [Digits.reverse]
  cases rest with
  | nil =>
    have hmay : mayEnd (naturalPlace n) = true := by
      unfold naturalPlace
      split_ifs <;> rfl
    simp only [run, List.foldl_nil, finish, hmay, if_true, hreverse, emit]
  | cons c cs =>
    obtain ⟨hdigit, hpoint, he, hE⟩ := h c rfl
    have hexponent : ¬(c = 'e' ∨ c = 'E') := not_or.mpr ⟨he, hE⟩
    have hstep : step ⟨done, .number (naturalPlace n) (naturalDigits n).reverse⟩ c =
        step ⟨.scalar (naturalDigits n).tree :: done, .between⟩ c := by
      unfold naturalPlace
      split_ifs <;>
        simp only [step, number, hdigit, Bool.false_eq_true, if_false, if_neg hpoint, if_neg hexponent, hreverse, emit]
    rw [run, List.foldl_cons, hstep, run, List.foldl_cons]

theorem run_toDigits (n : Nat) (h : EndsNumber rest) :
    run ⟨done, .between⟩ (Nat.toDigits 10 n ++ rest) = run ⟨.scalar (naturalDigits n).tree :: done, .between⟩ rest := by
  rw [run_append, foldl_toDigits, run_number n h]

end Lexer

/-! ## Values of numbers -/

/-- Digits whose value fits sixty-four bits are all taken. -/
theorem takeDigits_eq {ds : List Nat} {s taken : Nat} (h : ds.foldl (fun n d => 10 * n + d) s ≤ word64) :
    takeDigits ds s taken = (ds.foldl (fun n d => 10 * n + d) s, taken + ds.length, []) := by
  induction ds generalizing s taken with
  | nil => rfl
  | cons d ds ih =>
    have hgrows : ∀ (xs : List Nat) (m : Nat), m ≤ xs.foldl (fun n d => 10 * n + d) m := fun xs => by
      induction xs with
      | nil => exact fun m => le_rfl
      | cons x xs ihx => exact fun m => (by omega : m ≤ 10 * m + x).trans (ihx (10 * m + x))
    have hfits : ¬word64 < 10 * s + d := not_lt.mpr ((hgrows ds _).trans h)
    rw [takeDigits, if_neg hfits, ih h, List.foldl_cons, List.length_cons, Nat.add_right_comm, Nat.add_assoc]

/-- A natural in sixty-four bits is read as that number. -/
theorem tree_naturalDigits {n : Nat} (h : n ≤ word64) : (Lexer.naturalDigits n).tree = .int n := by
  have hvalue : ((Nat.toDigits 10 n).map digitValue).foldl (fun m d => 10 * m + d) 0 = n := by
    rw [List.foldl_map]
    exact Nat.ofDigitChars_ten_toDigits
  have hsignificand : (Lexer.naturalDigits n).significand = (n, 0) := by
    rw [Digits.significand, Lexer.naturalDigits]
    simp only [takeDigits_eq (hvalue.trans_le h), hvalue, takeDigits]
    rfl
  rw [Digits.tree, hsignificand]
  rfl

end ImportLint.Json
