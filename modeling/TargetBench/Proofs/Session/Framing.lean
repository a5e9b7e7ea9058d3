import Mathlib.Data.List.TakeDrop
import Mathlib.Data.List.TakeWhile
import TargetBench.Session.Frame

/-!
# Frames from pieces

A connection can be cut into frames in two ways: by asking for one frame after the other, with the
arrivals that no frame has used put back, or piece by piece as the bytes arrive. Both find the same
frames and the same end.

## Main definitions

* `FrameStream.ofPieces`: the frames of pieces that are cut as they arrive

## Main results

* `Frame.cut_of_line`, `Frame.cut_of_open`, `Frame.cut_of_long`: what the first line of bytes is
* `FrameStream.ofArrivals_eq_ofPieces`: the frames of arrivals are those of the pieces
-/

namespace TargetBench

namespace Frame

variable {bs begun line after : List UInt8}

/-! ## Lines -/

theorem splitLine_eq_some_iff :
    splitLine bs = (line, some after) ↔ bs.takeWhile (· != newline) = line ∧
      ∃ b, bs.dropWhile (· != newline) = b :: after := by
  rw [splitLine, List.span_eq_takeWhile_dropWhile]
  cases bs.dropWhile (· != newline) <;> simp

theorem length_lt_of_splitLine (h : splitLine bs = (line, some after)) :
    after.length < bs.length := by
  obtain ⟨-, b, hdrop⟩ := splitLine_eq_some_iff.mp h
  have hsuffix := (List.dropWhile_suffix (· != newline) (l := bs)).length_le
  rw [hdrop] at hsuffix
  exact hsuffix

theorem line_eq_of_splitLine (h : splitLine bs = (line, none)) : line = bs := by
  rw [splitLine, List.span_eq_takeWhile_dropWhile] at h
  have happend := List.takeWhile_append_dropWhile (p := (· != newline)) (l := bs)
  cases hdrop : bs.dropWhile (· != newline) with
  | nil =>
    rw [hdrop] at h happend
    rw [← happend, List.append_nil]
    exact (Prod.mk.inj h).1.symm
  | cons b rest =>
    rw [hdrop] at h
    cases h

/-! ## Cutting bytes -/

/-- A cut with frames in front. -/
def Cut.behind (frames : List (List UInt8)) (c : Cut) : Cut :=
  { c with frames := frames ++ c.frames }

theorem cutOnto_done (fuel : Nat) (done : List (List UInt8)) (begun bs : List UInt8) :
    cutOnto fuel done begun bs = (cutOnto fuel [] begun bs).behind done.reverse := by
  induction fuel generalizing done begun bs with
  | zero => simp [cutOnto, Cut.behind]
  | succ fuel ih =>
    unfold cutOnto
    dsimp only
    split
    · simp [Cut.behind]
    · cases (splitLine bs).2 with
      | none => simp [Cut.behind]
      | some after =>
        -- both sides go on after the frame, which stands in front on one of them
        simp only
        rw [ih (_ :: done), ih [_]]
        simp [Cut.behind]

theorem cutOnto_of_lt {fuel fuel' : Nat} (done : List (List UInt8)) (begun : List UInt8)
    (h : bs.length < fuel) (h' : bs.length < fuel') :
    cutOnto fuel done begun bs = cutOnto fuel' done begun bs := by
  induction fuel generalizing fuel' done begun bs with
  | zero => cases h
  | succ fuel ih =>
    obtain ⟨fuel', rfl⟩ := Nat.exists_eq_succ_of_ne_zero (Nat.ne_zero_of_lt h')
    unfold cutOnto
    dsimp only
    split
    · rfl
    · cases hafter : (splitLine bs).2 with
      | none => rfl
      | some after =>
        -- the line took at least its end, so the fuel that is left suffices for the rest
        have hlt := length_lt_of_splitLine (Prod.ext rfl hafter)
        exact ih _ _ (by omega) (by omega)

theorem cut_of_long {after : Option (List UInt8)} (h : splitLine bs = (line, after))
    (hlong : limit < begun.length + line.length) : cut begun bs = ⟨[], [], true⟩ := by
  simp only [cut, cutOnto, h, if_pos hlong, List.reverse_nil]

theorem cut_of_line (h : splitLine bs = (line, some after))
    (hfits : ¬ limit < begun.length + line.length) :
    cut begun bs = (cut [] after).behind [(line.reverse ++ begun).reverse] := by
  have hlt := length_lt_of_splitLine h
  simp only [cut, cutOnto, h, if_neg hfits]
  rw [cutOnto_done, cutOnto_of_lt [] [] hlt (Nat.lt_succ_self _)]
  rfl

theorem cut_of_open (h : splitLine bs = (line, none))
    (hfits : ¬ limit < begun.length + line.length) :
    cut begun bs = ⟨[], line.reverse ++ begun, false⟩ := by
  simp only [cut, cutOnto, h, if_neg hfits, List.reverse_nil]

/-- The line that has begun is never longer than a frame may be. -/
theorem length_begun_cutOnto_le (fuel : Nat) (done : List (List UInt8)) (bs : List UInt8)
    (h : begun.length ≤ limit) : (cutOnto fuel done begun bs).begun.length ≤ limit := by
  induction fuel generalizing done begun bs with
  | zero => exact h
  | succ fuel ih =>
    unfold cutOnto
    dsimp only
    split
    · exact Nat.zero_le _
    · cases (splitLine bs).2 with
      | none =>
        rw [List.length_append, List.length_reverse]
        omega
      | some after => exact ih _ _ (Nat.zero_le _)

theorem cut_nil (h : begun.length ≤ limit) : cut begun [] = ⟨[], begun, false⟩ := by
  have hfits : ¬ limit < begun.length + ([] : List UInt8).length := Nat.not_lt.mpr h
  exact cut_of_open rfl hfits

end Frame

namespace FrameStream

/-- A stream with frames in front. -/
def behind (frames : List (List UInt8)) (s : FrameStream) : FrameStream :=
  { s with frames := frames ++ s.frames }

/-- The frames of pieces that are cut as they arrive, after the bytes of a line that has begun. -/
def ofPieces (begun : List UInt8) : List (List UInt8) → FrameStream
  | [] => ⟨if begun.isEmpty then [] else [begun.reverse], none⟩
  | bs :: pieces =>
    let cut := Frame.cut begun bs
    if cut.tooLarge then ⟨cut.frames, some .tooLarge⟩
    else (ofPieces cut.begun pieces).behind cut.frames

theorem behind_nil (s : FrameStream) : s.behind [] = s := rfl

theorem behind_behind (fs gs : List (List UInt8)) (s : FrameStream) :
    (s.behind gs).behind fs = s.behind (fs ++ gs) := by
  simp [behind]

variable {bs begun line after : List UInt8} {pieces : List (List UInt8)}

theorem ofPieces_of_tooLarge (h : (Frame.cut begun bs).tooLarge = true) :
    ofPieces begun (bs :: pieces) = ⟨(Frame.cut begun bs).frames, some .tooLarge⟩ := if_pos h

theorem ofPieces_of_not_tooLarge (h : (Frame.cut begun bs).tooLarge = false) :
    ofPieces begun (bs :: pieces) =
      (ofPieces (Frame.cut begun bs).begun pieces).behind (Frame.cut begun bs).frames :=
  if_neg (by simp [h])

/-- Bytes that complete a line are cut after it as if they had arrived in two pieces. -/
theorem ofPieces_of_line (pieces : List (List UInt8)) (h : Frame.splitLine bs = (line, some after))
    (hfits : ¬ Frame.limit < begun.length + line.length) :
    ofPieces begun (bs :: pieces) =
      (ofPieces [] (after :: pieces)).behind [(line.reverse ++ begun).reverse] := by
  simp only [ofPieces, Frame.cut_of_line h hfits, Frame.Cut.behind]
  by_cases hlong : (Frame.cut [] after).tooLarge = true
  · rw [if_pos hlong, if_pos hlong]
    rfl
  · rw [if_neg hlong, if_neg hlong, behind_behind]

theorem ofPieces_nil_cons : ofPieces [] ([] :: pieces) = ofPieces [] pieces := by
  have hcut : Frame.cut [] [] = ⟨[], [], false⟩ := Frame.cut_nil (Nat.zero_le Frame.limit)
  simp only [ofPieces, hcut, Bool.false_eq_true, if_false, behind_nil]

/-! ## Asking for frames -/

/-- Pieces that reads have brought: each holds bytes. -/
def Filled (pieces : List (List UInt8)) : Prop := ∀ bs ∈ pieces, bs ≠ []

/-- What asking for the next frame has for an answer, in terms of the pieces that remain. -/
inductive NextIs (begun : List UInt8) (pieces : List (List UInt8)) : Prop where
  | closed (h : Frame.next begun (pieces.map .bytes) = (.ok none, []))
      (hs : ofPieces begun pieces = ⟨[], none⟩)
  | tooLarge (rest : List Arrival)
      (h : Frame.next begun (pieces.map .bytes) = (.error .tooLarge, rest))
      (hs : ofPieces begun pieces = ⟨[], some .tooLarge⟩)
  | frame (f : List UInt8) (rest : List (List UInt8)) (hrest : Filled rest)
      (h : Frame.next begun (pieces.map .bytes) = (.ok (some f), rest.map .bytes))
      (hs : ofPieces begun pieces = (ofPieces [] rest).behind [f])
      (hweight : Arrival.weight (rest.map .bytes) <
        Arrival.weight (pieces.map .bytes) + begun.length)

theorem nextIs (hpieces : Filled pieces) (begun : List UInt8) : NextIs begun pieces := by
  induction pieces generalizing begun with
  | nil =>
    cases begun with
    | nil => exact .closed rfl rfl
    | cons b begun => exact .frame (b :: begun).reverse [] nofun rfl rfl (by simp [Arrival.weight])
  | cons bs pieces ih =>
    obtain ⟨hbs, htail⟩ := List.forall_mem_cons.mp hpieces
    have hempty : bs.isEmpty = false := by simpa using hbs
    rcases hsplit : Frame.splitLine bs with ⟨line, after⟩
    by_cases hlong : Frame.limit < begun.length + line.length
    · refine .tooLarge (pieces.map .bytes) ?_ ?_
      · simp only [List.map_cons, Frame.next, hempty, hsplit, hlong, Bool.false_eq_true, if_false,
          if_true]
      · simp only [ofPieces, Frame.cut_of_long hsplit hlong, if_true]
    cases after with
    | none =>
      -- the piece ends within the line, so the frame is that of the pieces after it
      obtain rfl := Frame.line_eq_of_splitLine hsplit
      have hnext : Frame.next begun ((line :: pieces).map .bytes) =
          Frame.next (line.reverse ++ begun) (pieces.map .bytes) := by
        simp only [List.map_cons, Frame.next, hempty, hsplit, hlong, Bool.false_eq_true, if_false]
      have hstream : ofPieces begun (line :: pieces) = ofPieces (line.reverse ++ begun) pieces := by
        simp only [ofPieces, Frame.cut_of_open hsplit hlong, Bool.false_eq_true, if_false,
          behind_nil]
      cases ih htail (line.reverse ++ begun) with
      | closed h hs => exact .closed (hnext.trans h) (hstream.trans hs)
      | tooLarge rest h hs => exact .tooLarge rest (hnext.trans h) (hstream.trans hs)
      | frame f rest hrest h hs hweight =>
        refine .frame f rest hrest (hnext.trans h) (hstream.trans hs) ?_
        rw [List.length_append, List.length_reverse] at hweight
        rw [List.map_cons, Arrival.weight]
        omega
    | some after =>
      -- the piece completes a line; what remains of it is put back, unless that is nothing
      have hafter := Frame.length_lt_of_splitLine hsplit
      have hstream := ofPieces_of_line pieces hsplit hlong
      by_cases hnil : after = []
      · subst hnil
        refine .frame _ pieces htail ?_ (hstream.trans (by rw [ofPieces_nil_cons])) ?_
        · simp only [List.map_cons, Frame.next, hempty, hsplit, hlong, Bool.false_eq_true, if_false]
          rfl
        · rw [List.map_cons, Arrival.weight]
          omega
      · have hput : Frame.putBack after (pieces.map .bytes) = (after :: pieces).map .bytes :=
          if_neg (by simpa using hnil)
        refine .frame _ (after :: pieces) (List.forall_mem_cons.mpr ⟨hnil, htail⟩) ?_ hstream ?_
        · simp only [List.map_cons, Frame.next, hempty, hsplit, hlong, Bool.false_eq_true, if_false]
          rw [hput, List.map_cons]
        · rw [List.map_cons, List.map_cons, Arrival.weight, Arrival.weight]
          omega

theorem cut_eq_ofPieces {fuel : Nat} (hpieces : Filled pieces)
    (hfuel : Arrival.weight (pieces.map .bytes) < fuel) (done : List (List UInt8)) :
    cut fuel done (pieces.map .bytes) = (ofPieces [] pieces).behind done.reverse := by
  induction fuel generalizing pieces done with
  | zero => cases hfuel
  | succ fuel ih =>
    cases nextIs hpieces [] with
    | closed h hs => rw [cut, h, hs, behind, List.append_nil]
    | tooLarge rest h hs => rw [cut, h, hs, behind, List.append_nil]
    | frame f rest hrest h hs hweight =>
      rw [List.length_nil, Nat.add_zero] at hweight
      rw [cut, h, hs]
      simp only
      rw [ih hrest (by omega), behind_behind, List.reverse_cons]

/-- The frames that are found one after the other are those of the pieces. -/
theorem ofArrivals_eq_ofPieces (hpieces : Filled pieces) :
    ofArrivals (pieces.map .bytes) = ofPieces [] pieces :=
  cut_eq_ofPieces hpieces (Nat.lt_succ_self _) []

end FrameStream

end TargetBench
