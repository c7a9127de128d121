import Mathlib.Data.String.Basic
import Watchdesk.Text.Pieces

/-!
# Texts taken apart at a character

A text that is split at a character falls into the pieces of its list of characters.
-/

namespace Watchdesk.Text

open String (utf8Len)

variable {α : Type} [DecidableEq α] {separator : α} {piece : List α}

theorem splitOn_of_free (free : separator ∉ piece) : splitOn separator piece = [piece] := by
  induction piece with
  | nil => rfl
  | cons x piece ih =>
    rw [List.mem_cons, not_or] at free
    unfold splitOn
    rw [ih free.2]
    exact if_neg (Ne.symm free.1)

/-- At a separator the pieces before it and the pieces behind it are told apart. -/
theorem splitOn_append_separator (first rest : List α) :
    splitOn separator (first ++ separator :: rest) =
      splitOn separator first ++ splitOn separator rest := by
  induction first with
  | nil =>
    show splitOn separator (separator :: rest) = [] :: splitOn separator rest
    rw [splitOn]
    split
    · next bare => exact absurd bare (splitOn_ne_nil separator rest)
    · next piece more found => rw [if_pos rfl, found]
  | cons x first ih =>
    rw [List.cons_append, splitOn, splitOn, ih]
    cases found : splitOn separator first with
    | nil => exact absurd found (splitOn_ne_nil separator first)
    | cons piece pieces => split_ifs <;> simp

theorem splitOn_append (free : separator ∉ piece) (rest : List α) :
    splitOn separator (piece ++ separator :: rest) = piece :: splitOn separator rest := by
  rw [splitOn_append_separator, splitOn_of_free free, List.singleton_append]

/-- The split stands behind a piece of the text that does not hold the character. -/
theorem splitOnAux_eq (c : Char) (past piece rest : List Char) (pieces : List String)
    (free : c ∉ piece) :
    (String.ofList (past ++ piece ++ rest)).splitOnAux (String.ofList [c]) ⟨utf8Len past⟩
      ⟨utf8Len (past ++ piece)⟩ 0 pieces =
        pieces.reverse ++ (splitOn c (piece ++ rest)).map String.ofList := by
  have extracted (past piece rest : List Char) :
      String.Pos.Raw.extract (String.ofList (past ++ piece ++ rest)) ⟨utf8Len past⟩
        ⟨utf8Len (past ++ piece)⟩ = String.ofList piece := by
    rw [String.utf8Len_append]
    exact String.extract_of_valid past piece rest
  induction rest generalizing past piece pieces with
  | nil =>
    have finished := (String.atEnd_of_valid (past ++ piece) []).mpr rfl
    unfold String.splitOnAux
    dsimp only
    rw [if_pos finished, extracted, List.append_nil, splitOn_of_free free]
    simp
  | cons x rest ih =>
    have more : ¬ String.Pos.Raw.atEnd (String.ofList (past ++ piece ++ x :: rest))
        ⟨utf8Len (past ++ piece)⟩ = true := by
      rw [String.atEnd_of_valid]
      simp
    have read := String.get_of_valid (past ++ piece) (x :: rest)
    have next := String.next_of_valid (past ++ piece) x rest
    have sought : String.Pos.Raw.get (String.ofList [c]) 0 = c := String.get_of_valid [] [c]
    have found : String.Pos.Raw.next (String.ofList [c]) 0 = ⟨0 + c.utf8Size⟩ :=
      String.next_of_valid [] c []
    have whole : String.Pos.Raw.atEnd (String.ofList [c]) ⟨0 + c.utf8Size⟩ = true :=
      (String.atEnd_of_valid [c] []).mpr rfl
    have position : utf8Len (past ++ piece ++ [x]) = utf8Len (past ++ piece) + x.utf8Size := by
      rw [String.utf8Len_append _ [x]]
      simp
    unfold String.splitOnAux
    dsimp only
    rw [if_neg more, read, sought, List.headD_cons]
    -- At the character the piece is complete and the next one begins; otherwise the piece grows.
    by_cases same : x = c
    · subst same
      have back : (⟨utf8Len (past ++ piece) + x.utf8Size⟩ : String.Pos.Raw).unoffsetBy
          ⟨0 + x.utf8Size⟩ = ⟨utf8Len (past ++ piece)⟩ := by
        simp [String.Pos.Raw.unoffsetBy]
      have again := ih (past ++ piece ++ [x]) [] (String.ofList piece :: pieces) List.not_mem_nil
      rw [List.append_nil, position, List.append_assoc _ [x] rest, List.singleton_append,
        List.nil_append] at again
      rw [if_pos (beq_self_eq_true x), next, found, if_pos whole, back, extracted, again,
        splitOn_append free]
      simp
    · have here : (⟨utf8Len (past ++ piece)⟩ : String.Pos.Raw).unoffsetBy 0 =
          ⟨utf8Len (past ++ piece)⟩ := rfl
      have again := ih past (piece ++ [x]) pieces (by simp [free, Ne.symm same])
      rw [← List.append_assoc, position, List.append_assoc _ [x] rest, List.singleton_append,
        List.append_assoc piece [x] rest, List.singleton_append] at again
      rw [if_neg (by simpa using same), here, next, again]

theorem splitOn_singleton (s : List Char) (c : Char) :
    (String.ofList s).splitOn (String.ofList [c]) = (splitOn c s).map String.ofList := by
  unfold String.splitOn
  rw [if_neg (by simp)]
  exact splitOnAux_eq c [] [] s [] List.not_mem_nil

/-- The parts of a path. -/
theorem splitOn_slash (s : List Char) :
    (String.ofList s).splitOn "/" = (splitOn '/' s).map String.ofList :=
  splitOn_singleton s '/'

end Watchdesk.Text
