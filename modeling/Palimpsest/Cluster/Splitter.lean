import Palimpsest.Text.Basic

/-!
# Splitters

A program is made of clusters, but little of what it does depends on where a text is
cut into them. Words are saved and found again, letters are exchanged and addresses
are handed out as soon as cutting loses nothing and leaves no cluster empty; and the
rows of a program are the lines of its text because a line feed is a cluster by itself
wherever there are no carriage returns. A splitter is any way of cutting that keeps to
these three laws.
-/

namespace Palimpsest.Cluster

/-- A way to cut texts into clusters. -/
class Splitter where
  /-- The clusters of a text, in order. -/
  split : Text → List Text
  /-- Splitting loses nothing. -/
  flatten_split : ∀ text, (split text).flatten = text
  /-- No cluster is empty. -/
  ne_nil_of_mem_split : ∀ {text cluster}, cluster ∈ split text → cluster ≠ []
  /-- Without carriage returns a line feed is a cluster by itself. -/
  alone_of_mem_split : ∀ {text cluster}, Text.carriageReturn ∉ text → cluster ∈ split text →
    cluster = [Text.lineFeed] ∨ Text.lineFeed ∉ cluster

export Splitter (split flatten_split ne_nil_of_mem_split alone_of_mem_split)

attribute [simp] Splitter.flatten_split

variable [Splitter] {text cluster : Text}

theorem subset_of_mem_split (member : cluster ∈ split text) : cluster ⊆ text := by
  intro c inside
  rw [← flatten_split text]
  exact List.mem_flatten_of_mem member inside

theorem split_ne_nil (something : text ≠ []) : split text ≠ [] := by
  intro nothing
  apply something
  rw [← flatten_split text, nothing, List.flatten_nil]

@[simp]
theorem split_nil : split [] = [] := by
  apply List.eq_nil_iff_forall_not_mem.mpr
  intro cluster member
  have nothing := subset_of_mem_split member
  exact ne_nil_of_mem_split member (List.subset_nil.mp nothing)

end Palimpsest.Cluster
