import TargetBench.Driver.Channel
import TargetBench.Proofs.Message.RoundTrip
import TargetBench.Proofs.Session.Stream
import TargetBench.Proofs.Text.Bytes
import TargetBench.Session.Server

/-!
# Records as lines

A session sends each answer as a line, and a channel each notification. The text of a document has
no control characters, whatever texts it holds: in a quoted text they are escaped, and there are no
gaps outside one. So a line holds one line end, which is its last byte, and lines that are sent one
after the other are cut where they were put together.

## Main definitions

* `Frame.IsLine`: a text of which only the last byte is a line end
* `ReadAs`: lines that are read as values, in whatever pieces their bytes arrive

## Main results

* `Json.printable_chars`: no control character stands in the text of a document
* `readAs_lines`: the lines of values are read as the values
* `lines_read_again`: the lines of answers and of notifications are read as these
-/

namespace TargetBench

namespace Json

/-! ## Characters of documents -/

/-- A property of all documents, which an array has if its items have it, and an object if the
values of its members do. -/
@[elab_as_elim]
theorem inductionOn {motive : Json → Prop} (doc : Json) (null : motive .null)
    (bool : ∀ b, motive (.bool b)) (number : ∀ n, motive (.number n))
    (text : ∀ q, motive (.text q)) (array : ∀ xs, (∀ x ∈ xs, motive x) → motive (.array xs))
    (object : ∀ ms, (∀ m ∈ ms, motive m.2) → motive (.object ms)) : motive doc :=
  @Json.rec motive (fun xs => ∀ x ∈ xs, motive x) (fun ms => ∀ m ∈ ms, motive m.2)
    (fun m => motive m.2) null bool number text array object nofun
    (fun _ _ hx hxs => List.forall_mem_cons.mpr ⟨hx, hxs⟩) nofun
    (fun _ _ hm hms => List.forall_mem_cons.mpr ⟨hm, hms⟩) (fun _ _ hx => hx) doc

/-- Characters of which none is a control character of the ASCII range. -/
def Printable (cs : List Char) : Prop := ∀ c ∈ cs, 0x20 ≤ c.toNat

instance (cs : List Char) : Decidable (Printable cs) := List.decidableBAll _ cs

theorem Printable.append {cs ds : List Char} (h : Printable cs) (h' : Printable ds) :
    Printable (cs ++ ds) :=
  List.forall_mem_append.mpr ⟨h, h'⟩

theorem Printable.cons {c : Char} {cs : List Char} (hc : 0x20 ≤ c.toNat) (h : Printable cs) :
    Printable (c :: cs) :=
  List.forall_mem_cons.mpr ⟨hc, h⟩

theorem printable_lower : ∀ n : Fin 16, 0x20 ≤ (Hexadecimal.lower n.val).toNat := by decide

/-- A control character is escaped, and no other character is written as one. -/
theorem printable_escape (c : Char) : Printable (escape c) := by
  unfold escape
  split
  case h_8 =>
    split
    · next hcontrol =>
      -- the number of the character is written in two digits
      have hhigh := printable_lower ⟨c.toNat / 16, by omega⟩
      have hlow := printable_lower ⟨c.toNat % 16, by omega⟩
      have hfront : Printable ['\\', 'u', '0', '0'] := by decide
      exact hfront.append (.cons hhigh (.cons hlow nofun))
    · next hcontrol => exact .cons (Nat.not_lt.mp hcontrol) nofun
  all_goals decide

theorem printable_quotedChars (q : Quoted) : Printable (quotedChars q) := by
  refine .append (.cons (by decide) ?_) (.cons (by decide) nofun)
  intro c hc
  obtain ⟨d, -, hd⟩ := List.mem_flatMap.mp hc
  exact printable_escape d c hd

theorem printable_itemsChars {items : List Json} (h : ∀ x ∈ items, Printable x.chars) :
    Printable (itemsChars items) := by
  induction items with
  | nil => exact .cons (by decide) nofun
  | cons x xs ih =>
    obtain ⟨hx, hxs⟩ := List.forall_mem_cons.mp h
    exact .append (.cons (by decide) hx) (ih hxs)

theorem printable_member (name : Quoted) {x : Json} (h : Printable x.chars) :
    Printable (quotedChars name ++ ':' :: x.chars) :=
  (printable_quotedChars name).append (.cons (by decide) h)

theorem printable_membersChars {members : List (Quoted × Json)}
    (h : ∀ m ∈ members, Printable m.2.chars) : Printable (membersChars members) := by
  induction members with
  | nil => exact .cons (by decide) nofun
  | cons m ms ih =>
    obtain ⟨hm, hms⟩ := List.forall_mem_cons.mp h
    exact .append (.cons (by decide) (printable_member m.1 hm)) (ih hms)

/-- **No control character stands in the text of a document.** -/
theorem printable_chars (doc : Json) : Printable doc.chars := by
  induction doc using inductionOn with
  | null => decide
  | bool b => cases b <;> decide
  | number n =>
    intro c hc
    exact (toNat_of_isRunChar (Lexer.isRunChar_of_mem_chars hc)).1.le
  | text q => exact printable_quotedChars q
  | array xs ih =>
    cases xs with
    | nil => decide
    | cons x xs =>
      obtain ⟨hx, hxs⟩ := List.forall_mem_cons.mp ih
      exact .append (.cons (by decide) hx) (printable_itemsChars hxs)
  | object ms ih =>
    cases ms with
    | nil => decide
    | cons m ms =>
      obtain ⟨hm, hms⟩ := List.forall_mem_cons.mp ih
      exact .append (.cons (by decide) (printable_member m.1 hm)) (printable_membersChars hms)

end Json

/-! ## Bytes of lines -/

namespace Frame

/-- A text of which the last byte is a line end, and no other one. -/
def IsLine (line : String) : Prop :=
  ∃ front, Utf8.bytes line = front ++ [newline] ∧ newline ∉ front

/-- The bytes of lines that are sent one after the other. -/
def sent (lines : List String) : List UInt8 := lines.flatMap Utf8.bytes

/-- What the end of a stream means for its frames. -/
def StreamEnd.error : StreamEnd → Option FrameError
  | closed => none
  | failed => some .read

variable {bs : List UInt8} {lines : List String} {frames : List (List UInt8)}

/-- Only a line end is encoded with the byte of a line end. -/
theorem newline_not_mem_encode {cs : List Char} (h : Json.Printable cs) :
    newline ∉ Utf8.encode cs := by
  intro hmem
  obtain ⟨c, hc, hbyte⟩ := List.mem_flatMap.mp hmem
  have hsame : newline.toNat = c.toNat := Utf8.toNat_of_mem_encodeChar hbyte (by decide)
  have hcontrol : newline.toNat < 0x20 := by decide
  have hprintable := h c hc
  omega

theorem bytes_append (s t : String) : Utf8.bytes (s ++ t) = Utf8.bytes s ++ Utf8.bytes t := by
  rw [Utf8.bytes, Utf8.bytes, Utf8.bytes, String.toList_append, Utf8.encode, List.flatMap_append]
  rfl

section Values

variable {α : Type} [Wire α]

theorem newline_not_mem_encodeText (x : α) : newline ∉ Utf8.bytes (encodeText x) := by
  rw [Utf8.bytes, encodeText, Json.compact, String.toList_ofList]
  exact newline_not_mem_encode (Json.printable_chars _)

theorem bytes_line (x : α) :
    Utf8.bytes (encodeText x ++ "\n") = Utf8.bytes (encodeText x) ++ [newline] := by
  rw [bytes_append]
  rfl

/-- The text of a value and a line end are a line. -/
theorem isLine_encodeText (x : α) : IsLine (encodeText x ++ "\n") :=
  ⟨_, bytes_line x, newline_not_mem_encodeText x⟩

end Values

/-- The frames of lines are these without their ends, in their order, unless one of them is too
long. -/
theorem ofArrivals_of_lines {arrivals : List Arrival} {e : StreamEnd}
    (h : Delivers arrivals (FrameStream.terminated frames) e)
    (hframes : ∀ frame ∈ frames, FrameStream.Fits frame) :
    FrameStream.ofArrivals arrivals = ⟨frames, e.error⟩ := by
  have hbytes : FrameStream.terminated frames = FrameStream.terminated frames ++ [] :=
    (List.append_nil _).symm
  have hnothing : FrameStream.Fits [] := ⟨nofun, Nat.zero_le limit⟩
  have hframed : FrameStream.Framed (FrameStream.terminated frames) e ⟨frames, e.error⟩ := by
    cases e with
    | closed =>
      -- behind the last line end there is nothing, so there is no frame either
      have hclosed := FrameStream.Framed.closed hbytes hframes hnothing
      rwa [if_pos rfl, List.append_nil] at hclosed
    | failed => exact .failed hbytes hframes hnothing
  exact (FrameStream.asked_iff.mp (hframed.asked h)).symm

end Frame

/-! ## Reading lines again -/

/-- Lines that are read as values: in whatever pieces their bytes arrive, each line is the frame of
one value, and nothing is left over. Only a line that is too long for a frame is excepted. -/
def ReadAs {α : Type} [Wire α] (lines : List String) (xs : List α) : Prop :=
  (∀ line ∈ lines, (Utf8.bytes line).length ≤ Frame.limit + 1) →
    ∀ (arrivals : List Arrival) (e : Frame.StreamEnd),
      Frame.Delivers arrivals (Frame.sent lines) e →
        (FrameStream.ofArrivals arrivals).frames.map decodeBytes = xs.map some ∧
          (FrameStream.ofArrivals arrivals).error = e.error

/-- The lines of values are read as the values, if each value is restored from its document. -/
theorem readAs_lines {α : Type} [Wire α] {xs : List α}
    (h : ∀ x ∈ xs, Decoder.Restores Wire.decode (Wire.toJson x) x ∧
      (Wire.toJson x).depth ≤ nestingLimit) :
    ReadAs (xs.map fun x => encodeText x ++ "\n") xs := by
  intro hlimit arrivals e harrivals
  let frames := xs.map fun x => Utf8.bytes (encodeText x)
  have hsent : Frame.sent (xs.map fun x => encodeText x ++ "\n") =
      FrameStream.terminated frames := by
    simp only [Frame.sent, FrameStream.terminated, frames, List.flatMap_map, Frame.bytes_line]
  have hfits : ∀ frame ∈ frames, FrameStream.Fits frame := by
    refine List.forall_mem_map.mpr fun x hx => ⟨Frame.newline_not_mem_encodeText x, ?_⟩
    have hlength := hlimit _ (List.mem_map_of_mem hx)
    rw [Frame.bytes_line, List.length_append, List.length_singleton] at hlength
    exact Nat.le_of_succ_le_succ hlength
  rw [hsent] at harrivals
  rw [Frame.ofArrivals_of_lines harrivals hfits]
  refine ⟨?_, rfl⟩
  rw [List.map_map]
  refine List.map_congr_left fun x hx => ?_
  exact decodeBytes_encodeText (h x hx).1 (h x hx).2

/-- **The lines of answers and of notifications are read as these.** Every line has one line end,
which is its last byte; in whatever pieces the bytes arrive, the frames give the records again, in
their order. Notifications can be sent as long as the agent serves its socket, and are read again if
their numbers survive being written and they nest no deeper than a reader is ready to follow. -/
theorem lines_read_again :
    (∀ es : List Exchange, (∀ e ∈ es, Frame.IsLine e.line) ∧
      ReadAs (es.map Exchange.line) (es.map Exchange.response)) ∧
    ∀ (path : String) (ns : List Notification), ∃ lines,
      ns.mapM (fun n => (CallbackChannel.socket path true).notify n) = .ok lines ∧
        lines.length = ns.length ∧ (∀ line ∈ lines, Frame.IsLine line) ∧
          ((∀ n ∈ ns, n.Survives ∧ (Wire.toJson n).depth ≤ nestingLimit) → ReadAs lines ns) := by
  refine ⟨fun es => ⟨fun e _ => Frame.isLine_encodeText e.response, ?_⟩, fun path ns => ?_⟩
  · have hread : ReadAs ((es.map Exchange.response).map fun r => encodeText r ++ "\n")
        (es.map Exchange.response) := readAs_lines fun r _ => ⟨r.restores, r.depth_le⟩
    rwa [List.map_map] at hread
  · refine ⟨ns.map CallbackChannel.line, ?_, List.length_map _, ?_, fun hns => ?_⟩
    · exact List.mapM_pure
    · exact List.forall_mem_map.mpr fun n _ => Frame.isLine_encodeText n
    · exact readAs_lines fun n hn => ⟨Notification.restores (hns n hn).1, (hns n hn).2⟩

/-- A message with line ends and a notification with one in an argument: the answers arrive in two
pieces with an interruption between them, the notification in one. -/
theorem lines_read_again_pieces :
    let es : List Exchange := [⟨.ofMessage "a\n\"\x01\n", []⟩, ⟨.failure, []⟩]
    let n : Notification := ⟨"c", "changed", [.text "b\nc"]⟩
    let bytes := Frame.sent (es.map Exchange.line)
    let arrivals : List Arrival := [.bytes (bytes.take 7), .interrupted, .bytes (bytes.drop 7)]
    Frame.Delivers arrivals bytes .closed ∧
      (FrameStream.ofArrivals arrivals).frames.map decodeBytes =
        [some (Response.ofMessage "a\n\"\x01\n"), some .failure] ∧
      ∃ line, (CallbackChannel.socket "agent.sock" true).notify n = .ok line ∧
        (FrameStream.ofArrivals [.bytes (Utf8.bytes line)]).frames.map decodeBytes = [some n] := by
  intro es n bytes arrivals
  have hpieces : Frame.Delivers arrivals (bytes.take 7 ++ (bytes.drop 7 ++ [])) .closed :=
    .piece (by decide +kernel) (.interrupted (.piece (by decide +kernel) .closed))
  rw [List.append_nil, List.take_append_drop] at hpieces
  obtain ⟨hanswers, hnotifications⟩ := lines_read_again
  obtain ⟨-, hread⟩ := hanswers es
  obtain ⟨lines, hsent, -, -, hagain⟩ := hnotifications "agent.sock" [n]
  obtain rfl : [CallbackChannel.line n] = lines := Except.ok.inj hsent
  have hwhole : Frame.Delivers [.bytes (Utf8.bytes (CallbackChannel.line n))]
      (Utf8.bytes (CallbackChannel.line n) ++ []) .closed := .piece (by decide +kernel) .closed
  have hsurvives : n.Survives := List.forall_mem_singleton.mpr (.text _)
  have hdepth : (Wire.toJson n).depth ≤ nestingLimit := by decide +kernel
  refine ⟨hpieces, (hread (by decide +kernel) arrivals .closed hpieces).1, _, rfl, ?_⟩
  exact (hagain (List.forall_mem_singleton.mpr ⟨hsurvives, hdepth⟩) (by decide +kernel) _ .closed
    hwhole).1

end TargetBench
