import TargetBench.Proofs.Session.Framing

/-!
# Frames of a byte stream

The reads of a connection bring its bytes in pieces, with interruptions between them, until the
other side closes or a read fails. Asking for one frame after the other gives the lines of the
bytes, and neither the borders of the pieces nor the interruptions have any influence on them.

## Main definitions

* `Frame.Delivers`: reads that bring bytes and then an end
* `FrameStream.Asked`: what asking for one frame after the other gives
* `FrameStream.Framed`: the frames of bytes, by the lines in these

## Main results

* `Frame.takes_next`: what the next frame is
* `FrameStream.asked_iff_framed`: asking gives the frames of the bytes that were delivered
* `FrameStream.ofArrivals_of_delivers`: the frames depend on the bytes and their end only
-/

namespace TargetBench

namespace Frame

/-! ## Lines of bytes -/

section Lines

variable {bs line after : List UInt8}

theorem bne_newline_of_not_mem (h : newline ∉ bs) : ∀ b ∈ bs, (b != newline) = true := by
  intro b hb
  rw [bne_iff_ne]
  rintro rfl
  exact h hb

theorem splitLine_of_not_mem (h : newline ∉ bs) : splitLine bs = (bs, none) := by
  have hall := bne_newline_of_not_mem h
  rw [splitLine, List.span_eq_takeWhile_dropWhile, List.takeWhile_eq_self_iff.mpr hall,
    List.dropWhile_eq_nil_iff.mpr hall]

theorem splitLine_append_cons (h : newline ∉ line) (after : List UInt8) :
    splitLine (line ++ newline :: after) = (line, some after) := by
  have hall := bne_newline_of_not_mem h
  rw [splitLine_eq_some_iff, List.takeWhile_append_of_pos hall, List.dropWhile_append_of_pos hall,
    List.takeWhile_cons_of_neg (by simp), List.dropWhile_cons_of_neg (by simp), List.append_nil]
  exact ⟨rfl, newline, rfl⟩

/-- Bytes are one line without an end, or a line with its end and the bytes after it. -/
theorem splitLine_cases (bs : List UInt8) :
    newline ∉ bs ∧ splitLine bs = (bs, none) ∨ ∃ line after, newline ∉ line ∧
      bs = line ++ newline :: after ∧ splitLine bs = (line, some after) := by
  by_cases h : newline ∈ bs
  · obtain ⟨line, after, rfl, hline⟩ := List.eq_append_cons_of_mem h
    exact .inr ⟨line, after, hline, rfl, splitLine_append_cons hline after⟩
  · exact .inl ⟨h, splitLine_of_not_mem h⟩

end Lines

/-! ## Reads -/

/-- How a stream of bytes ends: the other side closes it, or a read fails. -/
inductive StreamEnd where
  | closed
  | failed
deriving DecidableEq

/-- The reads bring bytes and then their end. The bytes may come in any pieces, and any reads may
be interrupted; a read that brings nothing shows the end, and shows it again. -/
inductive Delivers : List Arrival → List UInt8 → StreamEnd → Prop
  | closed : Delivers [] [] .closed
  | failed (later : List Arrival) : Delivers (.failed :: later) [] .failed
  | nothing {arrivals : List Arrival} (onward : Delivers arrivals [] .closed) :
    Delivers (.bytes [] :: arrivals) [] .closed
  | interrupted {arrivals : List Arrival} {bs : List UInt8} {e : StreamEnd}
    (onward : Delivers arrivals bs e) : Delivers (.interrupted :: arrivals) bs e
  | piece {arrivals : List Arrival} {piece bs : List UInt8} {e : StreamEnd} (hpiece : piece ≠ [])
    (onward : Delivers arrivals bs e) : Delivers (.bytes piece :: arrivals) (piece ++ bs) e

theorem Delivers.putBack {arrivals : List Arrival} {bs : List UInt8} {e : StreamEnd}
    (h : Delivers arrivals bs e) (piece : List UInt8) :
    Delivers (putBack piece arrivals) (piece ++ bs) e := by
  cases piece with
  | nil => exact h
  | cons => exact .piece (List.cons_ne_nil _ _) h

/-- What asking for a frame gives, if bytes of its line are there already and the others are split
into the rest of this line and, unless the line has no end, the bytes after it. -/
inductive Takes (front : List UInt8) : List UInt8 × Option (List UInt8) → StreamEnd →
    Except FrameError (Option (List UInt8)) × List Arrival → Prop
  | tooLarge {line : List UInt8} {after : Option (List UInt8)} {e : StreamEnd}
    {rest : List Arrival} (hlong : limit < front.length + line.length) :
    Takes front (line, after) e (.error .tooLarge, rest)
  | line {line after : List UInt8} {e : StreamEnd} {rest : List Arrival}
    (hfits : front.length + line.length ≤ limit) (onward : Delivers rest after e) :
    Takes front (line, some after) e (.ok (some (front ++ line)), rest)
  | tail {line : List UInt8} {rest : List Arrival} (hfits : front.length + line.length ≤ limit)
    (hne : front ++ line ≠ []) (onward : Delivers rest [] .closed) :
    Takes front (line, none) .closed (.ok (some (front ++ line)), rest)
  | closed {line : List UInt8} {rest : List Arrival} (hempty : front ++ line = []) :
    Takes front (line, none) .closed (.ok none, rest)
  | failed {line : List UInt8} {rest : List Arrival} (hfits : front.length + line.length ≤ limit) :
    Takes front (line, none) .failed (.error .read, rest)

section Next

variable {arrivals : List Arrival} {front piece line after : List UInt8}

theorem next_bytes_of_long {after : Option (List UInt8)} (hpiece : piece ≠ [])
    (hsplit : splitLine piece = (line, after)) (hlong : limit < front.length + line.length) :
    next front.reverse (.bytes piece :: arrivals) = (.error .tooLarge, arrivals) := by
  have hempty : piece.isEmpty = false := by simpa using hpiece
  have hlong' : limit < front.reverse.length + line.length := by simpa using hlong
  simp only [next, hempty, hsplit, if_pos hlong', Bool.false_eq_true, if_false]

theorem next_bytes_of_line (hpiece : piece ≠ []) (hsplit : splitLine piece = (line, some after))
    (hfits : front.length + line.length ≤ limit) :
    next front.reverse (.bytes piece :: arrivals) =
      (.ok (some (front ++ line)), putBack after arrivals) := by
  have hempty : piece.isEmpty = false := by simpa using hpiece
  have hfits' : ¬ limit < front.reverse.length + line.length := by simpa using hfits
  simp only [next, hempty, hsplit, if_neg hfits', Bool.false_eq_true, if_false,
    List.reverse_append, List.reverse_reverse]

theorem next_bytes_of_open (hpiece : piece ≠ []) (hsplit : splitLine piece = (line, none))
    (hfits : front.length + line.length ≤ limit) :
    next front.reverse (.bytes piece :: arrivals) = next (front ++ line).reverse arrivals := by
  have hempty : piece.isEmpty = false := by simpa using hpiece
  have hfits' : ¬ limit < front.reverse.length + line.length := by simpa using hfits
  simp only [next, hempty, hsplit, if_neg hfits', Bool.false_eq_true, if_false,
    List.reverse_append]

/-- The end of a stream, after bytes of a line that has begun. -/
theorem takes_of_end (hfront : front.length ≤ limit) (onward : Delivers arrivals [] .closed) :
    Takes front ([], none) .closed
      (.ok (if front.reverse.isEmpty then none else some front.reverse.reverse), arrivals) := by
  cases front with
  | nil => exact .closed rfl
  | cons b front =>
    have htail : Takes (b :: front) ([], none) .closed (.ok (some (b :: front ++ [])), arrivals) :=
      .tail hfront (by simp) onward
    simpa using htail

/-- A piece without a line end counts with the bytes of the line that were there before. -/
theorem Takes.extend {after : Option (List UInt8)} {e : StreamEnd}
    {r : Except FrameError (Option (List UInt8)) × List Arrival}
    (h : Takes (front ++ piece) (line, after) e r) : Takes front (piece ++ line, after) e r := by
  have hlength : (front ++ piece).length + line.length =
      front.length + (piece ++ line).length := by
    rw [List.length_append, List.length_append, Nat.add_assoc]
  cases h with
  | tooLarge hlong => exact .tooLarge (hlength ▸ hlong)
  | line hfits onward =>
    rw [List.append_assoc]
    exact .line (hlength ▸ hfits) onward
  | tail hfits hne onward =>
    rw [List.append_assoc] at hne ⊢
    exact .tail (hlength ▸ hfits) hne onward
  | closed hempty => exact .closed (List.append_assoc front piece line ▸ hempty)
  | failed hfits => exact .failed (hlength ▸ hfits)

/-- **What the next frame is**: the rest of the line that has begun, whatever pieces it comes in. -/
theorem takes_next {bs : List UInt8} {e : StreamEnd} (h : Delivers arrivals bs e)
    (hfront : front.length ≤ limit) :
    Takes front (splitLine bs) e (next front.reverse arrivals) := by
  induction h generalizing front with
  | closed => exact takes_of_end hfront .closed
  | failed later => exact .failed hfront
  | nothing onward => exact takes_of_end hfront onward
  | interrupted _ ih => exact ih hfront
  | @piece arrivals piece bs e hpiece onward ih =>
    rcases splitLine_cases piece with ⟨hopen, hsplit⟩ | ⟨line, after, hline, hbytes, hsplit⟩
    · -- the piece lies within the line, which goes on in the pieces after it
      have hwhole : splitLine (piece ++ bs) = (piece ++ (splitLine bs).1, (splitLine bs).2) := by
        rcases splitLine_cases bs with ⟨hopen', hsplit'⟩ | ⟨line, after, hline, hbytes, hsplit'⟩
        · rw [hsplit']
          exact splitLine_of_not_mem (by simp [hopen, hopen'])
        · rw [hsplit', hbytes, ← List.append_assoc]
          exact splitLine_append_cons (by simp [hopen, hline]) after
      rw [hwhole]
      by_cases hlong : limit < front.length + piece.length
      · rw [next_bytes_of_long hpiece hsplit hlong]
        refine .tooLarge ?_
        rw [List.length_append]
        omega
      · have hfits := Nat.not_lt.mp hlong
        rw [next_bytes_of_open hpiece hsplit hfits]
        exact (ih (by rwa [List.length_append])).extend
    · -- the line ends in the piece, and what remains of this is put back
      have hwhole : splitLine (piece ++ bs) = (line, some (after ++ bs)) := by
        rw [hbytes, List.append_assoc]
        exact splitLine_append_cons hline _
      rw [hwhole]
      by_cases hlong : limit < front.length + line.length
      · rw [next_bytes_of_long hpiece hsplit hlong]
        exact .tooLarge hlong
      · have hfits := Nat.not_lt.mp hlong
        rw [next_bytes_of_line hpiece hsplit hfits]
        exact .line hfits (onward.putBack after)

/-- A frame uses up some of what arrives. -/
theorem weight_of_next {begun frame : List UInt8} {rest : List Arrival}
    (h : next begun arrivals = (.ok (some frame), rest)) :
    Arrival.weight rest < Arrival.weight arrivals + begun.length := by
  induction arrivals generalizing begun with
  | nil =>
    cases begun with
    | nil => cases h
    | cons b begun =>
      obtain rfl : [] = rest := congrArg Prod.snd h
      simp [Arrival.weight]
  | cons arrival arrivals ih =>
    cases arrival with
    | interrupted =>
      have hless : Arrival.weight rest < Arrival.weight arrivals + begun.length := ih h
      rw [Arrival.weight]
      · omega
      · simp
    | failed => cases h
    | bytes bs =>
      rw [Arrival.weight]
      rw [next] at h
      split at h
      · obtain rfl : arrivals = rest := congrArg Prod.snd h
        omega
      · rcases hsplit : splitLine bs with ⟨line, _ | after⟩
        · obtain rfl := line_eq_of_splitLine hsplit
          simp only [hsplit] at h
          split at h
          · cases h
          · have hless := ih h
            rw [List.length_append, List.length_reverse] at hless
            omega
        · have hafter := length_lt_of_splitLine hsplit
          simp only [hsplit] at h
          split at h
          · cases h
          · obtain rfl : putBack after arrivals = rest := congrArg Prod.snd h
            rw [putBack]
            split
            · omega
            · rw [Arrival.weight]
              omega

end Next

end Frame

namespace FrameStream

open TargetBench.Frame

variable {arrivals : List Arrival} {bs : List UInt8} {e : StreamEnd} {s : FrameStream}

/-! ## One frame after the other -/

/-- What asking for one frame after the other gives, up to the first time that there is none. -/
inductive Asked : List Arrival → FrameStream → Prop
  | closed {arrivals rest : List Arrival} (h : next [] arrivals = (.ok none, rest)) :
    Asked arrivals ⟨[], none⟩
  | failed {arrivals rest : List Arrival} {e : FrameError}
    (h : next [] arrivals = (.error e, rest)) : Asked arrivals ⟨[], some e⟩
  | frame {arrivals rest : List Arrival} {frame : List UInt8} {s : FrameStream}
    (h : next [] arrivals = (.ok (some frame), rest)) (onward : Asked rest s) :
    Asked arrivals (s.behind [frame])

theorem exists_asked_cut {fuel : Nat} (hfuel : Arrival.weight arrivals < fuel)
    (done : List (List UInt8)) :
    ∃ s, Asked arrivals s ∧ cut fuel done arrivals = s.behind done.reverse := by
  induction fuel generalizing arrivals done with
  | zero => cases hfuel
  | succ fuel ih =>
    rcases hnext : next [] arrivals with ⟨e | _ | frame, rest⟩
    · exact ⟨⟨[], some e⟩, .failed hnext, by simp [cut, hnext, behind]⟩
    · exact ⟨⟨[], none⟩, .closed hnext, by simp [cut, hnext, behind]⟩
    · have hless := weight_of_next hnext
      rw [List.length_nil, Nat.add_zero] at hless
      have hfuel' : Arrival.weight rest < fuel := by omega
      obtain ⟨s, hs, hcut⟩ := ih hfuel' (frame :: done)
      refine ⟨s.behind [frame], .frame hnext hs, ?_⟩
      simp only [cut, hnext]
      rw [hcut, behind_behind, List.reverse_cons]

theorem asked_ofArrivals (arrivals : List Arrival) : Asked arrivals (ofArrivals arrivals) := by
  obtain ⟨s, hs, hcut⟩ := exists_asked_cut (Nat.lt_succ_self (Arrival.weight arrivals)) []
  rw [ofArrivals, hcut]
  exact hs

theorem Asked.eq {s' : FrameStream} (h : Asked arrivals s) (h' : Asked arrivals s') : s = s' := by
  induction h generalizing s' with
  | closed h =>
    cases h' with
    | closed => rfl
    | failed h' | frame h' => cases h.symm.trans h'
  | failed h =>
    cases h' with
    | closed h' | frame h' => cases h.symm.trans h'
    | failed h' =>
      cases h.symm.trans h'
      rfl
  | frame h _ ih =>
    cases h' with
    | closed h' | failed h' => cases h.symm.trans h'
    | frame h' onward' =>
      cases h.symm.trans h'
      rw [ih onward']

/-- Asking for one frame after the other comes to an end, and gives the frames of the arrivals. -/
theorem asked_iff : Asked arrivals s ↔ s = ofArrivals arrivals := by
  constructor
  · exact fun h => h.eq (asked_ofArrivals arrivals)
  · rintro rfl
    exact asked_ofArrivals arrivals

/-! ## Frames of bytes -/

/-- Lines, each followed by its end. -/
def terminated (lines : List (List UInt8)) : List UInt8 := lines.flatMap (· ++ [newline])

/-- Bytes of one line, as many as a frame can have. -/
def Fits (line : List UInt8) : Prop := newline ∉ line ∧ line.length ≤ limit

/-- The frames of bytes that come to an end. The bytes are lines with their ends, and then bytes
without one: these are a frame too if the other side closed after them, unless there are none of
them, and are dropped if a read failed. The first line with too many bytes ends the frames, whether
it has an end or not. -/
inductive Framed (bs : List UInt8) : StreamEnd → FrameStream → Prop
  | closed {lines : List (List UInt8)} {tail : List UInt8} (hbytes : bs = terminated lines ++ tail)
    (hlines : ∀ line ∈ lines, Fits line) (htail : Fits tail) :
    Framed bs .closed ⟨lines ++ (if tail = [] then [] else [tail]), none⟩
  | failed {lines : List (List UInt8)} {tail : List UInt8} (hbytes : bs = terminated lines ++ tail)
    (hlines : ∀ line ∈ lines, Fits line) (htail : Fits tail) :
    Framed bs .failed ⟨lines, some .read⟩
  | tooLarge {e : StreamEnd} {lines : List (List UInt8)} {long after : List UInt8}
    (hbytes : bs = terminated lines ++ (long ++ after)) (hlines : ∀ line ∈ lines, Fits line)
    (hlong : newline ∉ long ∧ limit < long.length) : Framed bs e ⟨lines, some .tooLarge⟩

/-- Bytes of a line with too many of them are the first line of what they begin, or begin it. -/
theorem limit_lt_of_splitLine {long after line : List UInt8} {after' : Option (List UInt8)}
    (hlong : newline ∉ long ∧ limit < long.length)
    (hsplit : splitLine (long ++ after) = (line, after')) : limit < line.length := by
  rcases splitLine_cases after with ⟨hopen, -⟩ | ⟨rest, after, hrest, rfl, -⟩
  · rw [splitLine_of_not_mem (by simp [hlong.1, hopen])] at hsplit
    rw [← (Prod.mk.inj hsplit).1, List.length_append]
    omega
  · rw [← List.append_assoc, splitLine_append_cons (by simp [hlong.1, hrest])] at hsplit
    rw [← (Prod.mk.inj hsplit).1, List.length_append]
    omega

section Delivered

variable {line after tail : List UInt8}

theorem exists_takes (h : Delivers arrivals bs e) :
    ∃ r rest, next [] arrivals = (r, rest) ∧ Takes [] (splitLine bs) e (r, rest) :=
  ⟨_, _, rfl, takes_next h (Nat.zero_le limit)⟩

/-- A line that fits is not too long for a frame before which nothing has arrived. -/
theorem Fits.not_lt (h : Fits line) : ¬ limit < ([] : List UInt8).length + line.length := by
  rw [List.length_nil, Nat.zero_add]
  exact Nat.not_lt.mpr h.2

/-- The first frame, unless it is too long, is the first line. -/
theorem exists_next_of_line (h : Delivers arrivals (line ++ newline :: after) e)
    (hline : Fits line) :
    ∃ rest, next [] arrivals = (.ok (some line), rest) ∧ Delivers rest after e := by
  obtain ⟨r, rest, hnext, htakes⟩ := exists_takes h
  rw [splitLine_append_cons hline.1] at htakes
  cases htakes with
  | tooLarge hlong => exact absurd hlong hline.not_lt
  | line _ onward => exact ⟨rest, hnext, onward⟩

/-- Once the other side has closed there is no frame. -/
theorem asked_of_ended (h : Delivers arrivals [] .closed) : Asked arrivals ⟨[], none⟩ := by
  obtain ⟨r, rest, hnext, htakes⟩ := exists_takes h
  rw [splitLine_of_not_mem (by simp)] at htakes
  cases htakes with
  | tooLarge hlong => cases hlong
  | tail _ hne => exact absurd rfl hne
  | closed => exact .closed hnext

theorem asked_of_tail (h : Delivers arrivals tail .closed) (htail : Fits tail) :
    Asked arrivals ⟨if tail = [] then [] else [tail], none⟩ := by
  obtain ⟨r, rest, hnext, htakes⟩ := exists_takes h
  rw [splitLine_of_not_mem htail.1] at htakes
  cases htakes with
  | tooLarge hlong => exact absurd hlong htail.not_lt
  | tail _ hne onward =>
    rw [List.nil_append] at hne
    rw [if_neg hne]
    exact .frame hnext (asked_of_ended onward)
  | closed hempty =>
    rw [List.nil_append] at hempty
    rw [if_pos hempty]
    exact .closed hnext

theorem asked_of_broken (h : Delivers arrivals tail .failed) (htail : Fits tail) :
    Asked arrivals ⟨[], some .read⟩ := by
  obtain ⟨r, rest, hnext, htakes⟩ := exists_takes h
  rw [splitLine_of_not_mem htail.1] at htakes
  cases htakes with
  | tooLarge hlong => exact absurd hlong htail.not_lt
  | failed => exact .failed hnext

theorem asked_of_long {long : List UInt8} (h : Delivers arrivals (long ++ after) e)
    (hlong : newline ∉ long ∧ limit < long.length) : Asked arrivals ⟨[], some .tooLarge⟩ := by
  obtain ⟨r, rest, hnext, htakes⟩ := exists_takes h
  rcases hsplit : splitLine (long ++ after) with ⟨line, after'⟩
  have hline := limit_lt_of_splitLine hlong hsplit
  rw [hsplit] at htakes
  cases htakes with
  | tooLarge => exact .failed hnext
  | closed hempty =>
    rw [List.nil_append] at hempty
    rw [hempty] at hline
    cases hline
  | line hfits | tail hfits | failed hfits =>
    rw [List.length_nil, Nat.zero_add] at hfits
    exact absurd hfits (Nat.not_le.mpr hline)

/-- Lines with their ends are frames, and what follows them is found after these. -/
theorem asked_of_terminated {lines : List (List UInt8)} (hlines : ∀ line ∈ lines, Fits line)
    (hrest : ∀ arrivals, Delivers arrivals tail e → Asked arrivals s)
    (h : Delivers arrivals (terminated lines ++ tail) e) : Asked arrivals (s.behind lines) := by
  induction lines generalizing arrivals with
  | nil => exact hrest arrivals h
  | cons line lines ih =>
    obtain ⟨hline, hothers⟩ := List.forall_mem_cons.mp hlines
    have hbytes : terminated (line :: lines) ++ tail =
        line ++ newline :: (terminated lines ++ tail) := by simp [terminated]
    rw [hbytes] at h
    obtain ⟨rest, hnext, onward⟩ := exists_next_of_line h hline
    have hasked := Asked.frame hnext (ih hothers onward)
    rwa [behind_behind] at hasked

theorem Framed.asked (hs : Framed bs e s) (h : Delivers arrivals bs e) : Asked arrivals s := by
  cases hs with
  | closed hbytes hlines htail =>
    exact asked_of_terminated hlines (fun _ hd => asked_of_tail hd htail) (hbytes ▸ h)
  | @failed lines _ hbytes hlines htail =>
    have hasked := asked_of_terminated hlines (fun _ hd => asked_of_broken hd htail) (hbytes ▸ h)
    rwa [behind, List.append_nil] at hasked
  | @tooLarge _ lines _ _ hbytes hlines hlong =>
    have hasked := asked_of_terminated hlines (fun _ hd => asked_of_long hd hlong) (hbytes ▸ h)
    rwa [behind, List.append_nil] at hasked

end Delivered

theorem Framed.cons {line after : List UInt8} (hline : Fits line) (h : Framed after e s) :
    Framed (line ++ newline :: after) e (s.behind [line]) := by
  have hfront : ∀ (lines : List (List UInt8)) (rest : List UInt8),
      line ++ newline :: (terminated lines ++ rest) = terminated (line :: lines) ++ rest := by
    intro lines rest
    simp [terminated]
  cases h with
  | closed hbytes hlines htail =>
    rw [hbytes, hfront]
    exact .closed rfl (List.forall_mem_cons.mpr ⟨hline, hlines⟩) htail
  | failed hbytes hlines htail =>
    rw [hbytes, hfront]
    exact .failed rfl (List.forall_mem_cons.mpr ⟨hline, hlines⟩) htail
  | tooLarge hbytes hlines hlong =>
    rw [hbytes, hfront]
    exact .tooLarge rfl (List.forall_mem_cons.mpr ⟨hline, hlines⟩) hlong

/-- All bytes have frames. -/
theorem exists_framed (bs : List UInt8) (e : StreamEnd) : ∃ s, Framed bs e s := by
  have hnone : bs = terminated [] ++ bs := rfl
  rcases splitLine_cases bs with ⟨hopen, -⟩ | ⟨line, after, hline, hbytes, -⟩
  · by_cases hlong : limit < bs.length
    · have hwhole : bs = terminated [] ++ (bs ++ []) := (List.append_nil bs).symm
      exact ⟨_, .tooLarge hwhole nofun ⟨hopen, hlong⟩⟩
    · have hfits : Fits bs := ⟨hopen, Nat.not_lt.mp hlong⟩
      cases e with
      | closed => exact ⟨_, .closed hnone nofun hfits⟩
      | failed => exact ⟨_, .failed hnone nofun hfits⟩
  · by_cases hlong : limit < line.length
    · have hfirst : bs = terminated [] ++ (line ++ newline :: after) := hbytes
      exact ⟨_, .tooLarge hfirst nofun ⟨hline, hlong⟩⟩
    · obtain ⟨s, hs⟩ := exists_framed after e
      exact ⟨_, hbytes ▸ hs.cons ⟨hline, Nat.not_lt.mp hlong⟩⟩
termination_by bs.length
decreasing_by
  rw [hbytes, List.length_append, List.length_cons]
  omega

/-- Asking for one frame after the other gives the frames of the bytes that are delivered. -/
theorem asked_iff_framed (h : Delivers arrivals bs e) : Asked arrivals s ↔ Framed bs e s := by
  refine ⟨fun hasked => ?_, fun hs => hs.asked h⟩
  obtain ⟨s', hs'⟩ := exists_framed bs e
  rwa [hasked.eq (hs'.asked h)]

/-- **The frames depend on the bytes and their end only.** However the bytes are delivered, asking
for one frame after the other comes to an end and gives their lines, and so does every other way
to deliver them. -/
theorem ofArrivals_of_delivers (h : Delivers arrivals bs e) :
    (∀ s, Asked arrivals s ↔ s = ofArrivals arrivals) ∧
      (∀ s, Framed bs e s ↔ s = ofArrivals arrivals) ∧
      ∀ arrivals', Delivers arrivals' bs e → ofArrivals arrivals' = ofArrivals arrivals := by
  have hasked : ∀ s, Asked arrivals s ↔ s = ofArrivals arrivals := fun _ => asked_iff
  have hframed : ∀ s, Framed bs e s ↔ s = ofArrivals arrivals :=
    fun _ => (asked_iff_framed h).symm.trans asked_iff
  refine ⟨hasked, hframed, fun arrivals' h' => ?_⟩
  exact (hframed _).mp ((asked_iff_framed h').mp (asked_ofArrivals arrivals'))

/-- Two lines and one that is broken off, in three pieces with an interruption. -/
theorem ofArrivals_of_delivers_pieces :
    let arrivals : List Arrival :=
      [.bytes [97], .interrupted, .bytes [98, 10, 10], .bytes [99], .bytes []]
    Delivers arrivals [97, 98, 10, 10, 99] .closed ∧
      Framed [97, 98, 10, 10, 99] .closed (ofArrivals arrivals) ∧
      ofArrivals [.bytes [97, 98, 10, 10, 99]] = ofArrivals arrivals ∧
      (ofArrivals arrivals).frames = [[97, 98], [], [99]] := by
  intro arrivals
  have hpieces : Delivers arrivals [97, 98, 10, 10, 99] .closed :=
    .piece (by simp) (.interrupted (.piece (by simp) (.piece (by simp) (.nothing .closed))))
  have hwhole : Delivers [.bytes [97, 98, 10, 10, 99]] [97, 98, 10, 10, 99] .closed :=
    .piece (by simp) .closed
  obtain ⟨-, hframed, hsame⟩ := ofArrivals_of_delivers hpieces
  exact ⟨hpieces, (hframed _).mpr rfl, hsame _ hwhole, by decide⟩

end FrameStream

end TargetBench
