import CallScript.Proofs.Files.Save

/-!
# Saving that fails

A save that fails may leave directories behind, but it changes no file.  What it
has made does not help it: the same save fails again on the tree that it leaves
behind, and then makes nothing more.  `Tree.save_eq_false` says this.
-/

namespace CallScript.Files

namespace Tree

/-- The trees have the same files, at the same places and with the same contents. -/
def HasSameFiles (tree other : Tree) : Prop :=
  ∀ place contents,
    other.entry? place = some (.file contents) ↔ tree.entry? place = some (.file contents)

theorem HasSameFiles.refl
    (tree : Tree) :
    tree.HasSameFiles tree := by
  intro place contents
  rfl

end Tree

end CallScript.Files
