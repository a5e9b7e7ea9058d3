import TargetBench.Text.Utf8

/-!
# Frames

Commands arrive as lines. The arrivals on a connection are cut into frames at line ends, whatever
the pieces they arrive in; a line that grows too long ends the connection.

## Main definitions

* `Arrival`: what one read of a connection brings
* `Frame.next`: the next frame, and the arrivals after it
* `Frame.cut`: the frames that more bytes complete
* `FrameStream`: the frames of a connection and how it ends
-/

namespace TargetBench

/-- What one read of a connection brings. -/
inductive Arrival where
  /-- Bytes; no bytes at all say that the other side has closed. -/
  | bytes (bs : List UInt8)
  /-- A read that was interrupted and is to be repeated. -/
  | interrupted
  /-- A read that failed. -/
  | failed

/-- Why no frame can be read. -/
inductive FrameError where
  | read
  | tooLarge
deriving DecidableEq

namespace Frame

/-- The most bytes of a frame, the line end not counted. -/
def limit : Nat := 1024 * 1024

/-- The byte of a line end. -/
def newline : UInt8 := 10

/-- The bytes before the first line end, and the bytes after it if there is one. -/
def splitLine (bs : List UInt8) : List UInt8 × Option (List UInt8) :=
  match bs.span (· != newline) with
  | (line, []) => (line, none)
  | (line, _ :: after) => (line, some after)

/-- The frames that bytes complete, and what remains of the last line. -/
structure Cut where
  frames : List (List UInt8)
  /-- The bytes of the line that has begun, the last one first. -/
  begun : List UInt8
  /-- Whether the line after the frames is too long. -/
  tooLarge : Bool

/-- Cuts bytes that follow those of a line that has begun. The frames found so far are given, the
last one first; the first argument bounds their number. -/
def cutOnto : Nat → List (List UInt8) → List UInt8 → List UInt8 → Cut
  | 0, done, begun, _ => ⟨done.reverse, begun, false⟩
  | fuel + 1, done, begun, bs =>
    let (line, after) := splitLine bs
    if limit < begun.length + line.length then ⟨done.reverse, [], true⟩
    else match after with
      | some after => cutOnto fuel ((line.reverse ++ begun).reverse :: done) [] after
      | none => ⟨done.reverse, line.reverse ++ begun, false⟩

/-- Cuts bytes that follow those of a line that has begun. -/
def cut (begun bs : List UInt8) : Cut := cutOnto (bs.length + 1) [] begun bs

/-- The arrivals with bytes in front of them. -/
def putBack (bs : List UInt8) (arrivals : List Arrival) : List Arrival :=
  if bs.isEmpty then arrivals else .bytes bs :: arrivals

/-- The next frame, and the arrivals after it; no frame if the other side has closed. The bytes of
the frame that have arrived already are given, the last one first. A line that the other side
breaks off by closing is a frame too. -/
def next (begun : List UInt8) :
    List Arrival → Except FrameError (Option (List UInt8)) × List Arrival
  | [] => (.ok (if begun.isEmpty then none else some begun.reverse), [])
  | .interrupted :: arrivals => next begun arrivals
  | .failed :: arrivals => (.error .read, arrivals)
  | .bytes bs :: arrivals =>
    if bs.isEmpty then (.ok (if begun.isEmpty then none else some begun.reverse), arrivals)
    else
      let (line, after) := splitLine bs
      if limit < begun.length + line.length then (.error .tooLarge, arrivals)
      else
        let begun := line.reverse ++ begun
        match after with
        | some after => (.ok (some begun.reverse), putBack after arrivals)
        | none => next begun arrivals

end Frame

/-- The frames of a connection, and the error that ends it if it is not closed. -/
structure FrameStream where
  frames : List (List UInt8)
  error : Option FrameError

/-- How much there is in arrivals: a bound on the number of frames. -/
def Arrival.weight : List Arrival → Nat
  | [] => 0
  | .bytes bs :: arrivals => bs.length + 1 + weight arrivals
  | _ :: arrivals => 1 + weight arrivals

/-- Puts the frames of arrivals behind those in `done`, of which the last one stands first. The
first argument bounds the number of frames. -/
def FrameStream.cut : Nat → List (List UInt8) → List Arrival → FrameStream
  | 0, done, _ => ⟨done.reverse, none⟩
  | fuel + 1, done, arrivals => match Frame.next [] arrivals with
    | (.ok none, _) => ⟨done.reverse, none⟩
    | (.ok (some frame), arrivals) => cut fuel (frame :: done) arrivals
    | (.error e, _) => ⟨done.reverse, some e⟩

/-- The frames of arrivals. -/
def FrameStream.ofArrivals (arrivals : List Arrival) : FrameStream :=
  .cut (Arrival.weight arrivals + 1) [] arrivals

end TargetBench
