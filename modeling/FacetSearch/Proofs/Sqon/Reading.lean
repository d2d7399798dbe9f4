import FacetSearch.Proofs.Indexed
import FacetSearch.Proofs.Sqon.Outcome
import FacetSearch.Proofs.Sqon.Spelling

namespace FacetSearch.Sqon

/-!
# What reading a filter tree accepts

What is read is what the document says, with its operands read in turn one
level further down.  So a tree that was read is no deeper than the limit it was
read with.
-/

theorem Reader.says_of_node
    {limit remaining : Nat}
    {place : Location}
    {document : Json}
    {sqon : Sqon}
    (read : Reader.node limit (remaining + 1) place document = .ok sqon) :
    (∃ condition, Says document (.leaf condition) ∧ sqon = .leaf condition) ∨
      ∃ op documents content,
        Says document (.combine op documents) ∧
          Indexed.traverse
            (fun position child => Reader.node limit remaining (place.child position) child)
            documents = .ok content ∧
          sqon = .combine op content := by
  rcases exists_says_or_misspelt place document with ⟨head, said⟩ | ⟨failure, misspelt⟩
  · cases head with
    | leaf condition =>
        rw [Reader.node_of_says_leaf said] at read
        exact .inl ⟨condition, said, (Except.ok.inj read).symm⟩
    | combine op documents =>
        rw [Reader.node_of_says_combine said] at read
        obtain ⟨content, traversed, rfl⟩ := Compiler.map_eq_ok_iff.mp read
        exact .inr ⟨op, documents, content, said, traversed, rfl⟩
  · rw [Reader.node_of_misspelt misspelt] at read
    cases read

theorem Reader.depth_le_of_node
    {limit remaining : Nat}
    {place : Location}
    {document : Json}
    {sqon : Sqon}
    (read : Reader.node limit remaining place document = .ok sqon) :
    sqon.depth ≤ remaining := by
  induction remaining generalizing place document sqon with
  | zero =>
      cases read
  | succ remaining inductionHypothesis =>
      rcases Reader.says_of_node read with
        ⟨condition, -, rfl⟩ | ⟨op, documents, content, -, traversed, rfl⟩
      · simp [depth]
      · have shallow : depthOf content ≤ remaining := by
          rw [depthOf_le_iff]
          intro child member
          obtain ⟨childDocument, -, position, readChild⟩ :=
            exists_left_of_forall₂ (Indexed.forall₂_of_traverseFrom traversed) member
          exact inductionHypothesis readChild
        simpa [depth] using shallow

/-- A tree is no deeper than the limit it was read with. -/
theorem depth_le_of_ofJson
    {limit : Nat}
    {document : Json}
    {sqon : Sqon}
    (read : ofJson limit document = .ok sqon) :
    sqon.depth ≤ limit :=
  Reader.depth_le_of_node read

end FacetSearch.Sqon
