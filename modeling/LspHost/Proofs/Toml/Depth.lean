import LspHost.Toml.Document

/-!
# Documents that are nested too deep

Every opening bracket takes a part of the depth that is permitted. So a document whose first value begins
with more brackets than there is room for is given up there, whatever follows and whether or not it is
TOML (`Toml.parse_eq_tooDeep`).
-/

namespace LspHost

theorem Text.foldLineEndPairs_of_not_mem {text : List Char} (h : '\r' ∉ text) :
    foldLineEndPairs text = text := by
  fun_induction foldLineEndPairs text with
  | case1 => rfl
  | case2 rest ih => simp at h
  | case3 c rest _ ih =>
    rw [List.mem_cons, not_or] at h
    rw [ih h.2]

namespace Toml

/-- **A list that begins with a list** is given up with it. -/
theorem readItems_of_bracket {fuel room : Nat} {text : List Char} {problem : Problem}
    (h : readValue fuel room ('[' :: text) = .error problem) :
    readItems (fuel + 1) room ('[' :: text) = .error problem := by
  have hfiller : skipFiller false ('[' :: text) = .ok ('[' :: text) := rfl
  simp [readItems, hfiller, h, bind, Except.bind]

/-- **More brackets than there is room for** are given up. -/
theorem readValue_eq_tooDeep {depth fuel room : Nat} (hfuel : 2 * depth ≤ fuel)
    (hroom : room < arrayWeight * depth) (rest : List Char) :
    readValue fuel room (List.replicate depth '[' ++ rest) = .error .tooDeep := by
  simp only [arrayWeight] at hroom
  induction depth generalizing fuel room with
  | zero => omega
  | succ depth ih =>
    obtain ⟨fuel, rfl⟩ : ∃ more, fuel = more + 2 := ⟨fuel - 2, by omega⟩
    rw [List.replicate_succ, List.cons_append, readValue]
    by_cases hnone : room < arrayWeight
    · rw [if_pos hnone]
    · rw [if_neg hnone]
      simp only [arrayWeight] at hnone ⊢
      have hinner : readValue fuel (room - 2) (List.replicate depth '[' ++ rest) = .error .tooDeep :=
        ih (by omega) (by omega)
      obtain ⟨depth, rfl⟩ : ∃ less, depth = less + 1 := ⟨depth - 1, by omega⟩
      rw [List.replicate_succ, List.cons_append] at hinner ⊢
      rw [readItems_of_bracket hinner]
      rfl

/-- **A first statement that has no value** leaves the document without one. -/
theorem readStatements_of_error (fuel : Nat) {d : Draft} {c : Char} {rest : List Char}
    {problem : Problem} (hblank : skipBlank (c :: rest) = c :: rest) (hc : c ≠ '\n')
    (h : readStatement d (c :: rest) = .error problem) :
    readStatements (fuel + 1) d (c :: rest) = .error problem := by
  simp [readStatements, hblank, hc, h, bind, Except.bind]

/-- The front of a document whose first value follows. -/
def firstKey : List Char := ['x', ' ', '=', ' ']

/-- **A first value that is none** leaves its statement without one. -/
theorem readStatement_of_bracket {text : List Char} {problem : Problem}
    (h : readValue (2 * (' ' :: '[' :: text).length + 2) depthLimit ('[' :: text) = .error problem) :
    readStatement {} (firstKey ++ '[' :: text) = .error problem := by
  have hbegins : beginsKey 'x' = true := by decide
  have hkey : readKey (firstKey ++ '[' :: text) = .ok (["x"], '=' :: ' ' :: '[' :: text) := rfl
  have hblank : skipBlank (' ' :: '[' :: text) = '[' :: text := rfl
  simp only [firstKey, List.cons_append, List.nil_append] at hkey ⊢
  simp only [readStatement, hkey, bind, Except.bind, hblank, h]
  exact if_pos hbegins

/-- **A document that begins with more brackets than are permitted** is given up. -/
theorem parse_eq_tooDeep {depth : Nat} (hdepth : depthLimit < arrayWeight * depth)
    {rest : List Char} (hrest : '\r' ∉ rest) :
    parse (String.ofList (firstKey ++ (List.replicate depth '[' ++ rest))) = .error .tooDeep := by
  have hplain : '\r' ∉ firstKey ++ (List.replicate depth '[' ++ rest) := by
    simp [firstKey, hrest, List.mem_replicate]
  rw [parse, String.toList_ofList, Text.foldLineEndPairs_of_not_mem hplain]
  have hvalue : readValue (2 * (' ' :: (List.replicate depth '[' ++ rest)).length + 2) depthLimit
      (List.replicate depth '[' ++ rest) = .error .tooDeep := by
    refine readValue_eq_tooDeep ?_ hdepth rest
    simp only [List.length_cons, List.length_append, List.length_replicate]
    omega
  simp only [depthLimit, arrayWeight] at hdepth
  obtain ⟨depth, rfl⟩ : ∃ less, depth = less + 1 := ⟨depth - 1, by omega⟩
  rw [List.replicate_succ, List.cons_append] at hvalue ⊢
  have hdocument : readStatements
      ((firstKey ++ '[' :: (List.replicate depth '[' ++ rest)).length + 1) {}
      (firstKey ++ '[' :: (List.replicate depth '[' ++ rest)) = .error .tooDeep :=
    readStatements_of_error _ rfl (by decide) (readStatement_of_bracket hvalue)
  simp only [bind, Except.bind, hdocument]

end Toml

end LspHost
