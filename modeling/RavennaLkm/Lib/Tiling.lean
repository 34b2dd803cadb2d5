import Mathlib.Data.List.Chain

/-!
Pieces laid end to end. Each piece begins at one cursor and ends at another; a
list of pieces leads from a cursor to a cursor when every piece begins where the
one before it ended.
-/
namespace Tiling

variable {α κ ι : Type*} {begins ends : α → κ} {start middle finish : κ} {pieces later : List α}

def Leads (begins ends : α → κ) : κ → List α → κ → Prop
  | start, [], finish => start = finish
  | start, p :: rest, finish => begins p = start ∧ Leads begins ends (ends p) rest finish

theorem Leads.append (first : Leads begins ends start pieces middle)
    (second : Leads begins ends middle later finish) : Leads begins ends start (pieces ++ later) finish := by
  induction pieces generalizing start with
  | nil =>
    cases first
    exact second
  | cons p rest ih => exact ⟨first.1, ih first.2⟩

theorem Leads.head (leads : Leads begins ends start pieces finish) : ∀ p ∈ pieces.head?, begins p = start := by
  intro p isHead
  cases pieces with
  | nil => cases isHead
  | cons q rest =>
    cases isHead
    exact leads.1

theorem Leads.isChain (leads : Leads begins ends start pieces finish) :
    pieces.IsChain fun p q => begins q = ends p := by
  induction pieces generalizing start with
  | nil => exact .nil
  | cons p rest ih =>
    cases rest with
    | nil => exact .singleton p
    | cons q tail => exact .cons_cons leads.2.1 (ih leads.2)

end Tiling
