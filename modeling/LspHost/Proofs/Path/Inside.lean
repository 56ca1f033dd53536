import LspHost.Proofs.Path.Text

/-!
# Paths inside others

A relative path that is taken from another one can be taken off again, segment by segment: without its last
segment comes out what its parent leads to (`Path.parent_join`), until nothing of it is left
(`Path.join_of_segments_eq_nil`).
-/

namespace LspHost.Path

variable {p : Path} (hrelative : p.anchor = .relative)

include hrelative

/-- **A relative path** adds its segments, and nothing in front of them. -/
theorem segments_join (base : Path) : (base.join p).segments = base.segments ++ p.segments := by
  rw [join, hrelative]

theorem anchor_join (base : Path) : (base.join p).anchor = base.anchor := by
  rw [join, hrelative]

/-- **Without its last segment** comes out what the parent leads to. -/
theorem parent_join (hsegments : p.segments ≠ []) (base : Path) :
    (base.join p).parent = base.join p.parent := by
  have hparent : p.parent.anchor = .relative := hrelative
  rw [ext_iff', anchor_join hparent, segments_join hparent, parent, parent, anchor_take, segments_take,
    segments_take, anchor_join hrelative, segments_join hrelative, List.length_append]
  have hlength := List.length_pos_iff.mpr hsegments
  have hcount : base.segments.length + p.segments.length - 1 =
      base.segments.length + (p.segments.length - 1) := by omega
  exact ⟨rfl, by rw [hcount, List.take_length_add_append]⟩

/-- **Without segments** it leads nowhere else. -/
theorem join_of_segments_eq_nil (hsegments : p.segments = []) (base : Path) : base.join p = base := by
  rw [ext_iff', anchor_join hrelative, segments_join hrelative, hsegments, List.append_nil]
  exact ⟨rfl, rfl⟩

end LspHost.Path
