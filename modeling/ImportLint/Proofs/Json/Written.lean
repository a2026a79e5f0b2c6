import ImportLint.Json.Parse
import ImportLint.Proofs.Sequence
import ImportLint.Proofs.Json.Lexing

/-!
# Written JSON values are read as documents

`spelling` lists the lexemes of a document. A text with the lexemes of a document that breaks off nowhere is read as
that document (`parse_of_lexemes`). The texts of a value, in one line or over several lines, have the lexemes of its
document `Value.tree`, so both are read as this document (`parse_render`, `parse_renderPretty`), and what can be read
from the document can be read from the texts (`read_render`, `read_renderPretty`).
-/

namespace ImportLint.Json

open Document (Key Stop Tree)

/-! ## The lexemes of a document -/

def keyLexeme : Key → Lexeme
  | .text s => .text s
  | .unpaired => .unpaired

mutual

/-- The lexemes of a document that breaks off nowhere. -/
def spelling : Tree → List Lexeme
  | .list [] _ => [.openList, .closeList]
  | .list (t :: ts) _ => .openList :: spelling t ++ itemSpelling ts
  | .table [] _ => [.openTable, .closeTable]
  | .table ((k, t) :: ms) _ => .openTable :: keyLexeme k :: .colon :: spelling t ++ memberSpelling ms
  | .text s => [.text s]
  | .unpaired => [.unpaired]
  | t => [.scalar t]

/-- The lexemes of a list behind its first item. -/
def itemSpelling : List Tree → List Lexeme
  | [] => [.closeList]
  | t :: ts => .comma :: spelling t ++ itemSpelling ts

/-- The lexemes of a table behind its first member. -/
def memberSpelling : List (Key × Tree) → List Lexeme
  | [] => [.closeTable]
  | (k, t) :: ms => .comma :: keyLexeme k :: .colon :: spelling t ++ memberSpelling ms

end

/-! ## Reading lexemes -/

theorem orElse_eq_none_iff {α : Type} {a b : Option α} : (a <|> b) = none ↔ a = none ∧ b = none := by
  cases a <;> simp

theorem closed_of_break? {stop : Stop} (h : stop.break? = none) : stop = .closed := by
  cases stop with
  | closed => rfl
  | beforeComma b => cases h
  | beforeKey b => cases h

/-- A first item is read as any other value, since no document begins with a closing bracket. -/
theorem foldl_firstItem (t : Tree) (rest : List Lexeme) (stack : List Frame) :
    (spelling t ++ rest).foldl State.step (.firstItem stack) =
      (spelling t ++ rest).foldl State.step (.value (.list [] :: stack)) := by
  cases t with
  | list items stop => cases items <;> simp only [spelling] <;> rfl
  | table members stop => cases members <;> simp only [spelling] <;> rfl
  | _ =>
    simp only [spelling]
    rfl

theorem step_firstKey (k : Key) (stack : List Frame) :
    State.step (.firstKey stack) (keyLexeme k) = .colon [] k stack := by
  cases k <;> rfl

theorem step_key (k : Key) (members : List (Key × Tree)) (stack : List Frame) :
    State.step (.key members stack) (keyLexeme k) = .colon members k stack := by
  cases k <;> rfl

mutual

/-- Where a value is due, the lexemes of a document are read as that document. -/
theorem foldl_spelling (t : Tree) (stack : List Frame) (h : t.firstBreak = none) :
    (spelling t).foldl State.step (.value stack) = .push t stack := by
  cases t with
  | list items stop =>
    obtain ⟨hitems, hstop⟩ := orElse_eq_none_iff.mp h
    obtain rfl := closed_of_break? hstop
    cases items with
    | nil =>
      simp only [spelling]
      rfl
    | cons t ts =>
      obtain ⟨ht, hts⟩ := orElse_eq_none_iff.mp hitems
      have hopen : State.step (.value stack) .openList = .firstItem stack := rfl
      rw [spelling, List.cons_append, List.foldl_cons, hopen, foldl_firstItem, List.foldl_append,
        foldl_spelling t _ ht]
      exact foldl_itemSpelling ts [t] stack hts
  | table members stop =>
    obtain ⟨hmembers, hstop⟩ := orElse_eq_none_iff.mp h
    obtain rfl := closed_of_break? hstop
    match members with
    | [] =>
      simp only [spelling]
      rfl
    | (k, t) :: ms =>
      obtain ⟨ht, hms⟩ := orElse_eq_none_iff.mp hmembers
      have hopen : State.step (.value stack) .openTable = .firstKey stack := rfl
      have hcolon : State.step (.colon [] k stack) .colon = .value (.entry [] k :: stack) := rfl
      rw [spelling, List.cons_append, List.cons_append, List.cons_append, List.foldl_cons, hopen, List.foldl_cons,
        step_firstKey, List.foldl_cons, hcolon, List.foldl_append, foldl_spelling t _ ht]
      exact foldl_memberSpelling ms [(k, t)] stack hms
  | broken b => cases h
  | _ =>
    simp only [spelling]
    rfl

/-- Behind items of a list, the lexemes of further items are read as those. -/
theorem foldl_itemSpelling (ts items : List Tree) (stack : List Frame) (h : Tree.firstBreakOfItems ts = none) :
    (itemSpelling ts).foldl State.step (.afterItem items stack) =
      .push (.list (items.reverse ++ ts) .closed) stack := by
  match ts with
  | [] =>
    rw [List.append_nil]
    rfl
  | t :: ts =>
    obtain ⟨ht, hts⟩ := orElse_eq_none_iff.mp h
    have hcomma : State.step (.afterItem items stack) .comma = .value (.list items :: stack) := rfl
    rw [itemSpelling, List.cons_append, List.foldl_cons, hcomma, List.foldl_append, foldl_spelling t _ ht, State.push,
      foldl_itemSpelling ts _ stack hts, List.reverse_cons, List.append_assoc]
    rfl

/-- Behind members of a table, the lexemes of further members are read as those. -/
theorem foldl_memberSpelling (ms members : List (Key × Tree)) (stack : List Frame)
    (h : Tree.firstBreakOfMembers ms = none) :
    (memberSpelling ms).foldl State.step (.afterMember members stack) =
      .push (.table (members.reverse ++ ms) .closed) stack := by
  match ms with
  | [] =>
    rw [List.append_nil]
    rfl
  | (k, t) :: ms =>
    obtain ⟨ht, hms⟩ := orElse_eq_none_iff.mp h
    have hcomma : State.step (.afterMember members stack) .comma = .key members stack := rfl
    have hcolon : State.step (.colon members k stack) .colon = .value (.entry members k :: stack) := rfl
    rw [memberSpelling, List.cons_append, List.cons_append, List.cons_append, List.foldl_cons, hcomma, List.foldl_cons,
      step_key, List.foldl_cons, hcolon, List.foldl_append, foldl_spelling t _ ht, State.push,
      foldl_memberSpelling ms _ stack hms, List.reverse_cons, List.append_assoc]
    rfl

end

/-- A text with the lexemes of a document that breaks off nowhere is read as this document. -/
theorem parse_of_lexemes {text : String} {t : Tree} (ht : t.firstBreak = none)
    (h : lexemes text.toList = spelling t) : parse text = (t, false) := by
  rw [parse, h, foldl_spelling t [] ht]
  rfl

/-! ## The document of a value -/

namespace Value

mutual

/-- The document that a value is read back as. -/
def tree : Value → Tree
  | null => .null
  | bool b => .bool b
  | number n => (Lexer.naturalDigits n).tree
  | text s => .text s
  | list items => .list (treesOfItems items) .closed
  | table members => .table (treesOfMembers members) .closed

def treesOfItems : List Value → List Tree
  | [] => []
  | v :: vs => v.tree :: treesOfItems vs

def treesOfMembers : List (String × Value) → List (Key × Tree)
  | [] => []
  | (k, v) :: ms => (.text k, v.tree) :: treesOfMembers ms

end

theorem treesOfItems_eq_map (vs : List Value) : treesOfItems vs = vs.map tree := by
  induction vs with
  | nil => rfl
  | cons v vs ih => rw [treesOfItems, ih, List.map_cons]

theorem treesOfMembers_eq_map (ms : List (String × Value)) :
    treesOfMembers ms = ms.map fun m => (.text m.1, m.2.tree) := by
  induction ms with
  | nil => rfl
  | cons m ms ih => rw [treesOfMembers, ih, List.map_cons]

theorem sortKeysOfItems_eq_map (vs : List Value) : sortKeysOfItems vs = vs.map sortKeys := by
  induction vs with
  | nil => rfl
  | cons v vs ih => rw [sortKeysOfItems, ih, List.map_cons]

theorem sortKeysOfMembers_eq_map (ms : List (String × Value)) :
    sortKeysOfMembers ms = ms.map fun m => (m.1, m.2.sortKeys) := by
  induction ms with
  | nil => rfl
  | cons m ms ih => rw [sortKeysOfMembers, ih, List.map_cons]

theorem sortKeysOfMembers_eq_self {ms : List (String × Value)} (h : ∀ m ∈ ms, m.2.sortKeys = m.2) :
    sortKeysOfMembers ms = ms := by
  rw [sortKeysOfMembers_eq_map]
  have hmap : ms.map (fun m => (m.1, m.2.sortKeys)) = ms.map id :=
    List.map_congr_left fun m hm => congrArg (Prod.mk m.1) (h m hm)
  exact hmap.trans (List.map_id ms)

/-- A table whose keys are put in order has the same members. -/
theorem tree_sortKeys_table (ms : List (String × Value)) :
    ∃ ms', (table ms).sortKeys.tree = .table ms' .closed ∧ (treesOfMembers (sortKeysOfMembers ms)).Perm ms' := by
  refine ⟨_, by rw [sortKeys, tree], ?_⟩
  rw [treesOfMembers_eq_map, treesOfMembers_eq_map]
  exact (List.mergeSort_perm _ _).symm.map _

end Value

/-- The value of a number is a scalar. -/
theorem floatTree_scalar (negative : Bool) (x : Option Text.Binary64) :
    spelling (floatTree negative x) = [.scalar (floatTree negative x)] ∧ (floatTree negative x).firstBreak = none := by
  cases x <;> exact ⟨rfl, rfl⟩

theorem Digits.tree_scalar (n : Digits) : spelling n.tree = [.scalar n.tree] ∧ n.tree.firstBreak = none := by
  unfold Digits.tree
  dsimp only
  split_ifs
  all_goals first
    | exact ⟨rfl, rfl⟩
    | exact floatTree_scalar _ _

namespace Value

mutual

theorem firstBreak_tree (v : Value) : v.tree.firstBreak = none := by
  cases v with
  | number n => exact (Lexer.naturalDigits n).tree_scalar.2
  | list items => rw [tree, Tree.firstBreak, firstBreak_treesOfItems items]; rfl
  | table members => rw [tree, Tree.firstBreak, firstBreak_treesOfMembers members]; rfl
  | _ => rfl

theorem firstBreak_treesOfItems (vs : List Value) : Tree.firstBreakOfItems (treesOfItems vs) = none := by
  match vs with
  | [] => rfl
  | v :: vs => rw [treesOfItems, Tree.firstBreakOfItems, firstBreak_tree v, firstBreak_treesOfItems vs]; rfl

theorem firstBreak_treesOfMembers (ms : List (String × Value)) :
    Tree.firstBreakOfMembers (treesOfMembers ms) = none := by
  match ms with
  | [] => rfl
  | (_, v) :: ms => rw [treesOfMembers, Tree.firstBreakOfMembers, firstBreak_tree v, firstBreak_treesOfMembers ms]; rfl

end

end Value

/-! ## The texts of a value -/

open Lexer (EndsNumber run)

variable {done : List Lexeme} {rest : List Char}

/-- A separator or a bracket ends a number. -/
theorem endsNumber_cons {c : Char} (h : c ∈ [',', ']', '\x7d', '\n']) (cs : List Char) : EndsNumber (c :: cs) := by
  intro d hd
  obtain rfl : c = d := Option.some.inj hd
  simp only [List.mem_cons, List.not_mem_nil, or_false] at h
  obtain rfl | rfl | rfl | rfl := h <;> decide

namespace Value

theorem endsNumber_itemChars (vs : List Value) (rest : List Char) : EndsNumber (itemChars vs ++ rest) := by
  cases vs <;> exact endsNumber_cons (by decide) _

theorem endsNumber_memberChars (ms : List (String × Value)) (rest : List Char) :
    EndsNumber (memberChars ms ++ rest) := by
  cases ms <;> exact endsNumber_cons (by decide) _

mutual

/-- The text of a value in one line has the lexemes of its document. -/
theorem run_chars (v : Value) (done : List Lexeme) {rest : List Char} (h : EndsNumber rest) :
    run ⟨done, .between⟩ (v.chars ++ rest) = run ⟨(spelling v.tree).reverse ++ done, .between⟩ rest := by
  match v with
  | null => exact Lexer.run_null
  | bool b => exact Lexer.run_bool b
  | number n =>
    rw [chars, tree, Lexer.run_toDigits n h, (Lexer.naturalDigits n).tree_scalar.1]
    rfl
  | text s => exact Lexer.run_renderText s
  | list [] => rfl
  | list (v :: vs) =>
    rw [chars, List.cons_append, List.cons_append, Lexer.run_openList, List.append_assoc,
      run_chars v _ (endsNumber_itemChars vs rest), run_itemChars vs, tree, treesOfItems, spelling]
    simp
  | table [] => rfl
  | table ((k, v) :: ms) =>
    rw [chars]
    simp only [List.cons_append, List.append_assoc]
    rw [Lexer.run_openTable, Lexer.run_renderText, Lexer.run_colon, run_chars v _ (endsNumber_memberChars ms rest),
      run_memberChars ms, tree, treesOfMembers, spelling]
    simp [keyLexeme]

theorem run_itemChars (vs : List Value) (done : List Lexeme) {rest : List Char} :
    run ⟨done, .between⟩ (itemChars vs ++ rest) =
      run ⟨(itemSpelling (treesOfItems vs)).reverse ++ done, .between⟩ rest := by
  match vs with
  | [] => exact Lexer.run_closeList
  | v :: vs =>
    rw [itemChars, List.cons_append, List.cons_append, Lexer.run_comma, List.append_assoc,
      run_chars v _ (endsNumber_itemChars vs rest), run_itemChars vs, treesOfItems, itemSpelling]
    simp

theorem run_memberChars (ms : List (String × Value)) (done : List Lexeme) {rest : List Char} :
    run ⟨done, .between⟩ (memberChars ms ++ rest) =
      run ⟨(memberSpelling (treesOfMembers ms)).reverse ++ done, .between⟩ rest := by
  match ms with
  | [] => exact Lexer.run_closeTable
  | (k, v) :: ms =>
    rw [memberChars]
    simp only [List.cons_append, List.append_assoc]
    rw [Lexer.run_comma, Lexer.run_renderText, Lexer.run_colon, run_chars v _ (endsNumber_memberChars ms rest),
      run_memberChars ms, treesOfMembers, memberSpelling]
    simp [keyLexeme]

end

/-- The text of a value in one line is read as its document. -/
theorem parse_render (v : Value) : parse v.render = (v.tree, false) := by
  refine parse_of_lexemes v.firstBreak_tree ?_
  have hend : EndsNumber [] := fun _ hc => nomatch hc
  have h := run_chars v [] hend
  rw [List.append_nil, List.append_nil] at h
  rw [render, String.toList_ofList, Lexer.lexemes_eq, h, Lexer.run_done, List.reverse_reverse]

theorem endsNumber_prettyItems (level : Nat) (vs : List Value) (rest : List Char) :
    EndsNumber (prettyItems level vs ++ rest) := by
  cases vs <;> exact endsNumber_cons (by decide) _

theorem endsNumber_prettyMembers (level : Nat) (ms : List (String × Value)) (rest : List Char) :
    EndsNumber (prettyMembers level ms ++ rest) := by
  cases ms <;> exact endsNumber_cons (by decide) _

mutual

/-- The text of a value over several lines has the lexemes of its document. -/
theorem run_prettyChars (level : Nat) (v : Value) (done : List Lexeme) {rest : List Char} (h : EndsNumber rest) :
    run ⟨done, .between⟩ (v.prettyChars level ++ rest) = run ⟨(spelling v.tree).reverse ++ done, .between⟩ rest := by
  match v with
  | list [] => rfl
  | list (v :: vs) =>
    rw [prettyChars]
    simp only [List.cons_append, List.append_assoc]
    rw [Lexer.run_openList, Lexer.run_newLine, run_prettyChars _ v _ (endsNumber_prettyItems level vs rest),
      run_prettyItems level vs, tree, treesOfItems, spelling]
    simp
  | table [] => rfl
  | table ((k, v) :: ms) =>
    rw [prettyChars]
    simp only [List.cons_append, List.append_assoc]
    rw [Lexer.run_openTable, Lexer.run_newLine, Lexer.run_renderText, Lexer.run_colon, Lexer.run_blank rfl,
      run_prettyChars _ v _ (endsNumber_prettyMembers level ms rest), run_prettyMembers level ms, tree, treesOfMembers,
      spelling]
    simp [keyLexeme]
  | null => exact run_chars .null done h
  | bool b => exact run_chars (.bool b) done h
  | number n => exact run_chars (.number n) done h
  | text s => exact run_chars (.text s) done h

theorem run_prettyItems (level : Nat) (vs : List Value) (done : List Lexeme) {rest : List Char} :
    run ⟨done, .between⟩ (prettyItems level vs ++ rest) =
      run ⟨(itemSpelling (treesOfItems vs)).reverse ++ done, .between⟩ rest := by
  match vs with
  | [] =>
    rw [prettyItems, List.append_assoc, Lexer.run_newLine]
    exact Lexer.run_closeList
  | v :: vs =>
    rw [prettyItems]
    simp only [List.cons_append, List.append_assoc]
    rw [Lexer.run_comma, Lexer.run_newLine, run_prettyChars _ v _ (endsNumber_prettyItems level vs rest),
      run_prettyItems level vs, treesOfItems, itemSpelling]
    simp

theorem run_prettyMembers (level : Nat) (ms : List (String × Value)) (done : List Lexeme) {rest : List Char} :
    run ⟨done, .between⟩ (prettyMembers level ms ++ rest) =
      run ⟨(memberSpelling (treesOfMembers ms)).reverse ++ done, .between⟩ rest := by
  match ms with
  | [] =>
    rw [prettyMembers, List.append_assoc, Lexer.run_newLine]
    exact Lexer.run_closeTable
  | (k, v) :: ms =>
    rw [prettyMembers]
    simp only [List.cons_append, List.append_assoc]
    rw [Lexer.run_comma, Lexer.run_newLine, Lexer.run_renderText, Lexer.run_colon, Lexer.run_blank rfl,
      run_prettyChars _ v _ (endsNumber_prettyMembers level ms rest), run_prettyMembers level ms, treesOfMembers,
      memberSpelling]
    simp [keyLexeme]

end

/-- The text of a value over several lines is read as its document, with an end of line behind it. -/
theorem parse_renderPretty (v : Value) : parse (v.renderPretty ++ "\n") = (v.tree, false) := by
  refine parse_of_lexemes v.firstBreak_tree ?_
  have hend : EndsNumber ['\n'] := endsNumber_cons (by decide) []
  have h := run_prettyChars 0 v [] hend
  rw [List.append_nil, Lexer.run_blank rfl] at h
  rw [renderPretty, String.toList_append, String.toList_ofList, Lexer.lexemes_eq]
  exact (congrArg (fun l => l.done.reverse) h).trans (List.reverse_reverse _)

end Value

/-! ## Reading written values -/

open Document (Reader)

variable {α : Type} {r : Reader α}

/-- A text gives what its document gives, unless something stands behind the value. -/
theorem read_eq_ok_iff {text : String} {a : α} :
    read r text = .ok a ↔ r (parse text).1 = .ok a ∧ (parse text).2 = false := by
  unfold read
  obtain ⟨t, trailing⟩ := parse text
  simp only [bind_eq_ok_iff]
  cases trailing <;> simp

namespace Value

theorem read_render {v : Value} {a : α} (h : r v.tree = .ok a) : read r v.render = .ok a := by
  rw [read_eq_ok_iff, parse_render]
  exact ⟨h, rfl⟩

theorem read_renderPretty {v : Value} {a : α} (h : r v.tree = .ok a) : read r (v.renderPretty ++ "\n") = .ok a := by
  rw [read_eq_ok_iff, parse_renderPretty]
  exact ⟨h, rfl⟩

theorem count_read {n : Nat} (h : n ≤ word64) : Reader.count (number n).tree = .ok n := by
  rw [tree, tree_naturalDigits h]
  rfl

theorem list_read {f : α → Value} (h : ∀ a, r (f a).tree = .ok a) (as : List α) :
    Reader.list r (list (as.map f)).tree = .ok as := by
  have has : (treesOfItems (as.map f)).mapM r = .ok as := by
    rw [treesOfItems_eq_map, List.map_map, mapM_eq_ok_iff, List.forall₂_map_left_iff]
    exact List.forall₂_same.mpr fun a _ => h a
  rw [tree, Reader.list, has]
  rfl

theorem option_read {f : α → String} (h : ∀ a, r (.text (f a)) = .ok a) (a? : Option α) :
    Reader.optional r (option (fun a => text (f a)) a?).tree = .ok a? := by
  cases a? with
  | none => rfl
  | some a => exact map_eq_ok_iff.mpr ⟨a, h a, rfl⟩

end Value

end ImportLint.Json
