namespace Replay

/-- The indices from the outermost list down. The empty path is the whole script. -/
structure Path where
  indices : List Nat
  deriving DecidableEq, Repr

namespace Path

def root : Path := ⟨[]⟩

def child (path : Path) (index : Nat) : Path := ⟨path.indices ++ [index]⟩

def depth (path : Path) : Nat := path.indices.length

/-- Decimal indices between points, or `<root>` for the whole script. -/
def text (path : Path) : String :=
  if path.indices = [] then "<root>"
  else String.intercalate "." (path.indices.map Nat.repr)

@[simp] theorem depth_root : root.depth = 0 := rfl

@[simp] theorem depth_child (path : Path) (index : Nat) :
    (path.child index).depth = path.depth + 1 := by
  simp [child, depth]

end Path

end Replay
