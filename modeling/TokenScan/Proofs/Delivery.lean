import TokenScan.Report
import Mathlib.Data.List.Basic

/-!
# Writing to a limited receiver

A receiver of a report may run out of room. Then it has taken the front of the report that there
was room for, and the failure that is reported tells what was being written: inside of a JSON
document it is a failure of the document, anywhere else one of the stream. The byte that decides is
the first one that was not taken.

## The size of the pieces

A report is modelled as a list of chunks, each of them written at once. A program may well write it
in many smaller pieces, number by number and escape by escape. That makes no difference: what comes
of a delivery is determined by the bytes and by the part of the report that each of them is in, and
no longer by how they are cut up. So the statements here hold for every finer way of writing.

## Main definitions

* `Chunk.labelled` — the bytes of a report, each with its part
* `Delivery.result` — what is answered to the writer of a report
* `Report.CutsOff` — a report is cut off where the receiver is full
* `Report.InDocument`, `Report.EndsDocument` — what the byte at an offset of the JSON report is

## Main results

* `Chunk.deliver_eq` — a delivery takes a front, and stops in the part of the next byte
* `limited_receiver_cuts_off` — the three reports, written to a limited receiver
-/

namespace TokenScan

/-! ### The bytes of a report and their parts -/

namespace Chunk

/-- The bytes of a piece, each with the part of the report that the piece is in. -/
def labels (chunk : Chunk) : List (UInt8 × Part) :=
  (bytesOf chunk.text).map fun byte => (byte, chunk.part)

/-- The bytes of a report, each with the part of the report that it is in. -/
def labelled (chunks : List Chunk) : List (UInt8 × Part) := chunks.flatMap labels

variable (room : Nat) (chunk : Chunk) (chunks : List Chunk)

@[simp] theorem length_labels : chunk.labels.length = (bytesOf chunk.text).length :=
  List.length_map _

@[simp] theorem map_fst_labels : chunk.labels.map Prod.fst = bytesOf chunk.text := by
  simp [labels, Function.comp_def]

@[simp] theorem map_snd_labels :
    chunk.labels.map Prod.snd = List.replicate (bytesOf chunk.text).length chunk.part := by
  simp [labels, Function.comp_def, List.map_const']

@[simp] theorem labelled_cons : labelled (chunk :: chunks) = chunk.labels ++ labelled chunks := rfl

/-- Without their parts they are the bytes of the text. -/
theorem map_fst_labelled : (labelled chunks).map Prod.fst = bytesOf (join chunks) := by
  induction chunks with
  | nil => rfl
  | cons chunk chunks ih =>
    have hjoin : join (chunk :: chunks) = chunk.text ++ join chunks := by
      simp [join]
    rw [labelled_cons, List.map_append, map_fst_labels, ih, hjoin, bytesOf_append]

theorem length_labelled : (labelled chunks).length = (bytesOf (join chunks)).length := by
  rw [← map_fst_labelled, List.length_map]

/-- **What comes of a delivery.** The bytes that there is room for are taken, and the next one tells
in which part the delivery stopped. -/
theorem deliver_eq : deliver room chunks =
    ⟨((labelled chunks).take room).map Prod.fst, (labelled chunks)[room]?.map Prod.snd⟩ := by
  induction chunks generalizing room with
  | nil => simp [deliver, labelled]
  | cons chunk chunks ih =>
    rw [deliver, labelled_cons]
    split
    · next hfits =>
      rw [← length_labels] at hfits
      rw [ih, List.take_append, List.take_of_length_le hfits, List.getElem?_append_right hfits,
        List.map_append, map_fst_labels, length_labels]
    · next hfull =>
      rw [← length_labels, Nat.not_le] at hfull
      rw [List.take_append_of_le_length (Nat.le_of_lt hfull), List.getElem?_append_left hfull,
        List.map_take, map_fst_labels, ← List.getElem?_map, map_snd_labels,
        List.getElem?_replicate_of_lt (by rwa [length_labels] at hfull)]

theorem accepted_deliver : (deliver room chunks).accepted = (bytesOf (join chunks)).take room := by
  rw [deliver_eq, List.map_take, map_fst_labelled]

theorem stoppedIn?_deliver :
    (deliver room chunks).stoppedIn? = ((labelled chunks).map Prod.snd)[room]? := by
  rw [deliver_eq, List.getElem?_map]

/-- A delivery stops if and only if there is a byte too many. -/
theorem stoppedIn?_deliver_eq_none_iff :
    (deliver room chunks).stoppedIn? = none ↔ (bytesOf (join chunks)).length ≤ room := by
  rw [stoppedIn?_deliver, List.getElem?_eq_none_iff, List.length_map, length_labelled]

variable {room chunks}

/-- A delivery stops in one of the pieces. -/
theorem exists_mem_of_stoppedIn? {part : Part}
    (h : (deliver room chunks).stoppedIn? = some part) : ∃ chunk ∈ chunks, chunk.part = part := by
  rw [stoppedIn?_deliver] at h
  obtain ⟨⟨byte, label⟩, hmem, rfl⟩ := List.mem_map.mp (List.mem_of_getElem? h)
  obtain ⟨chunk, hchunk, hlabel⟩ := List.mem_flatMap.mp hmem
  obtain ⟨other, -, heq⟩ := List.mem_map.mp hlabel
  exact ⟨chunk, hchunk, congrArg Prod.snd heq⟩

end Chunk

/-! ### What the writer is told -/

/-- What is answered to the writer of a report: that all of it was taken, or the failure. -/
def Delivery.result (delivery : Delivery) : Except Failure Unit :=
  match delivery.stoppedIn? with
  | none => .ok ()
  | some part => .error (Report.writeFailure part)

namespace Delivery

variable (delivery : Delivery)

theorem result_eq_ok_iff : delivery.result = .ok () ↔ delivery.stoppedIn? = none := by
  rw [result]
  cases delivery.stoppedIn? <;> simp

theorem result_eq_error_iff (part : Part) :
    delivery.result = .error (Report.writeFailure part) ↔ delivery.stoppedIn? = some part := by
  rw [result]
  rcases delivery.stoppedIn? with - | stopped
  · simp
  · cases stopped <;> cases part <;> simp [Report.writeFailure]

end Delivery

namespace Report

/-- A report is cut off where its receiver is full, and nowhere else. -/
structure CutsOff (report : List Chunk) (room : Nat) : Prop where
  /-- A receiver that has room for all of it takes all of it. -/
  unlimited : ∀ ample, (bytesOf (Chunk.join report)).length ≤ ample →
    Chunk.deliver ample report = ⟨bytesOf (Chunk.join report), none⟩
  /-- What is taken is the front that there is room for. -/
  accepted_eq : (Chunk.deliver room report).accepted = (bytesOf (Chunk.join report)).take
    (min room (bytesOf (Chunk.join report)).length)
  /-- All is well if and only if there is room for all. -/
  result_eq_ok_iff : (Chunk.deliver room report).result = .ok () ↔
    (bytesOf (Chunk.join report)).length ≤ room
  /-- It makes no difference in which pieces the bytes are written, as long as each of them stays in
  its part of the report. -/
  deliver_congr : ∀ pieces, Chunk.labelled pieces = Chunk.labelled report →
    Chunk.deliver room pieces = Chunk.deliver room report

/-- **Every report is cut off where its receiver is full.** -/
theorem cutsOff (report : List Chunk) (room : Nat) : CutsOff report room where
  unlimited := by
    intro ample hample
    have haccepted := Chunk.accepted_deliver ample report
    have hstopped := (Chunk.stoppedIn?_deliver_eq_none_iff ample report).mpr hample
    rw [List.take_of_length_le hample] at haccepted
    rw [← haccepted, ← hstopped]
  accepted_eq := by
    rw [Chunk.accepted_deliver]
    rcases Nat.le_total room (bytesOf (Chunk.join report)).length with hle | hle
    · rw [Nat.min_eq_left hle]
    · rw [Nat.min_eq_right hle, List.take_of_length_le hle, List.take_length]
  result_eq_ok_iff := by
    rw [Delivery.result_eq_ok_iff, Chunk.stoppedIn?_deliver_eq_none_iff]
  deliver_congr := by
    intro pieces hpieces
    rw [Chunk.deliver_eq, Chunk.deliver_eq, hpieces]

/-! ### Reports of running text -/

theorem part_of_mem_tokenLines {item : Scanned} :
    ∀ chunk ∈ tokenLines item, chunk.part = .stream := by
  intro chunk hchunk
  obtain ⟨token, -, rfl⟩ := List.mem_map.mp hchunk
  rfl

/-- The text report is running text. -/
theorem part_of_mem_text {items : List Scanned} : ∀ chunk ∈ text items, chunk.part = .stream := by
  intro chunk hchunk
  match items with
  | [] => cases hchunk
  | [item] => exact part_of_mem_tokenLines chunk hchunk
  | first :: second :: others =>
    simp only [text, List.cons_append, List.mem_cons, List.mem_append, List.mem_flatMap] at hchunk
    rcases hchunk with rfl | hchunk | ⟨item, -, rfl | rfl | hchunk⟩
    · rfl
    · exact part_of_mem_tokenLines chunk hchunk
    · rfl
    · rfl
    · exact part_of_mem_tokenLines chunk hchunk

/-- The report of diagnostics is running text. -/
theorem part_of_mem_diagnostics {items : List Scanned} :
    ∀ chunk ∈ diagnostics items, chunk.part = .stream := by
  intro chunk hchunk
  obtain ⟨item, -, hchunk⟩ := List.mem_flatMap.mp hchunk
  obtain ⟨d, -, rfl⟩ := List.mem_map.mp hchunk
  rfl

/-- Running text that is cut off is a failure of the stream. -/
theorem result_eq_io_iff {report : List Chunk} (hstream : ∀ chunk ∈ report, chunk.part = .stream)
    (room : Nat) :
    (Chunk.deliver room report).result = .error (.io .writeZero) ↔
      room < (bytesOf (Chunk.join report)).length := by
  have hresult := Delivery.result_eq_error_iff (Chunk.deliver room report) .stream
  rw [← Nat.not_le, ← Chunk.stoppedIn?_deliver_eq_none_iff]
  refine hresult.trans ⟨fun hpart => by simp [hpart], fun hstopped => ?_⟩
  obtain ⟨part, hpart⟩ := Option.ne_none_iff_exists'.mp hstopped
  obtain ⟨chunk, hchunk, rfl⟩ := Chunk.exists_mem_of_stoppedIn? hpart
  rw [hstream chunk hchunk] at hpart
  exact hpart

/-! ### The JSON report -/

/-- The byte at an offset of the JSON report is inside of the document of an input. -/
def InDocument (items : List Scanned) (offset : Nat) : Prop :=
  ∃ earlier item later, items = earlier ++ item :: later ∧
    (bytesOf (Chunk.join (json earlier))).length ≤ offset ∧
    offset < (bytesOf (Chunk.join (json earlier))).length + (bytesOf (inputJson item).text).length

/-- The byte at an offset of the JSON report is the line feed that ends the document of an input. -/
def EndsDocument (items : List Scanned) (offset : Nat) : Prop :=
  ∃ earlier item later, items = earlier ++ item :: later ∧
    offset =
      (bytesOf (Chunk.join (json earlier))).length + (bytesOf (inputJson item).text).length

/-- The parts of the line of an input, byte by byte. -/
def lineParts (item : Scanned) : List Part :=
  List.replicate (bytesOf (inputJson item).text).length .document ++ [.stream]

theorem map_snd_labelled_json (items : List Scanned) :
    (Chunk.labelled (json items)).map Prod.snd = items.flatMap lineParts := by
  induction items with
  | nil => rfl
  | cons item items ih =>
    have hjson : json (item :: items) =
        ⟨(inputJson item).text, .document⟩ :: line "" :: json items := rfl
    rw [hjson, Chunk.labelled_cons, Chunk.labelled_cons, List.map_append, List.map_append, ih,
      Chunk.map_snd_labels, Chunk.map_snd_labels, List.flatMap_cons, lineParts, List.append_assoc]
    rfl

theorem length_flatMap_lineParts (items : List Scanned) :
    (items.flatMap lineParts).length = (bytesOf (Chunk.join (json items))).length := by
  rw [← map_snd_labelled_json, List.length_map, Chunk.length_labelled]

theorem getElem?_lineParts (item : Scanned) (place : Nat) : (lineParts item)[place]? =
    if place < (bytesOf (inputJson item).text).length then some .document
    else if place = (bytesOf (inputJson item).text).length then some .stream else none := by
  rw [lineParts, List.getElem?_append, List.length_replicate]
  split
  · next hlt => rw [List.getElem?_replicate_of_lt hlt]
  · next hge =>
    split
    · next heq => rw [heq, Nat.sub_self]; rfl
    · next hne =>
      rw [List.getElem?_eq_none_iff, List.length_singleton]
      omega

/-- A byte of the report is a byte of the line of an input. -/
theorem getElem?_flatMap_lineParts_eq_some_iff {items : List Scanned} {offset : Nat} {part : Part} :
    (items.flatMap lineParts)[offset]? = some part ↔
      ∃ earlier item later, items = earlier ++ item :: later ∧
        ∃ place, offset = (bytesOf (Chunk.join (json earlier))).length + place ∧
          (lineParts item)[place]? = some part := by
  constructor
  · intro h
    induction items generalizing offset with
    | nil => cases h
    | cons first items ih =>
      rw [List.flatMap_cons, List.getElem?_append] at h
      split at h
      · exact ⟨[], first, items, rfl, offset, (Nat.zero_add offset).symm, h⟩
      · next hge =>
        obtain ⟨earlier, item, later, rfl, place, hplace, hpart⟩ := ih h
        refine ⟨first :: earlier, item, later, rfl, place, ?_, hpart⟩
        rw [← length_flatMap_lineParts, List.flatMap_cons, List.length_append,
          length_flatMap_lineParts]
        omega
  · rintro ⟨earlier, item, later, rfl, place, rfl, hpart⟩
    have hlt := (List.getElem?_eq_some_iff.mp hpart).1
    rw [← length_flatMap_lineParts, List.flatMap_append, List.flatMap_cons,
      List.getElem?_append_right (Nat.le_add_right ..), Nat.add_sub_cancel_left,
      List.getElem?_append_left hlt, hpart]

theorem getElem?_eq_document_iff {items : List Scanned} {offset : Nat} :
    (items.flatMap lineParts)[offset]? = some .document ↔ InDocument items offset := by
  rw [getElem?_flatMap_lineParts_eq_some_iff, InDocument]
  constructor
  · rintro ⟨earlier, item, later, hitems, place, rfl, hpart⟩
    rw [getElem?_lineParts] at hpart
    split at hpart
    · next hlt => exact ⟨earlier, item, later, hitems, Nat.le_add_right .., by omega⟩
    · split at hpart <;> cases hpart
  · rintro ⟨earlier, item, later, hitems, hle, hlt⟩
    refine ⟨earlier, item, later, hitems, _, (Nat.add_sub_of_le hle).symm, ?_⟩
    rw [getElem?_lineParts, if_pos (by omega)]

theorem getElem?_eq_stream_iff {items : List Scanned} {offset : Nat} :
    (items.flatMap lineParts)[offset]? = some .stream ↔ EndsDocument items offset := by
  rw [getElem?_flatMap_lineParts_eq_some_iff, EndsDocument]
  constructor
  · rintro ⟨earlier, item, later, hitems, place, rfl, hpart⟩
    rw [getElem?_lineParts] at hpart
    split at hpart
    · cases hpart
    · split at hpart
      · next heq => exact ⟨earlier, item, later, hitems, by rw [heq]⟩
      · cases hpart
  · rintro ⟨earlier, item, later, hitems, hoffset⟩
    refine ⟨earlier, item, later, hitems, _, hoffset, ?_⟩
    rw [getElem?_lineParts, if_neg (Nat.lt_irrefl _), if_pos rfl]

/-- A document that is cut off is a failure of the document. -/
theorem result_json_eq_json_iff (items : List Scanned) (room : Nat) :
    (Chunk.deliver room (json items)).result = .error (.json .writeZero) ↔
      InDocument items room := by
  rw [← getElem?_eq_document_iff, ← map_snd_labelled_json, ← Chunk.stoppedIn?_deliver]
  exact Delivery.result_eq_error_iff _ .document

/-- The byte that ends a document is a line feed. -/
theorem EndsDocument.getElem? {items : List Scanned} {offset : Nat}
    (h : EndsDocument items offset) :
    (bytesOf (Chunk.join (json items)))[offset]? = some 0x0A := by
  obtain ⟨earlier, item, later, rfl, rfl⟩ := h
  have hjoin : Chunk.join (json (earlier ++ item :: later)) =
      Chunk.join (json earlier) ++
        ((inputJson item).text ++ ("\n" ++ Chunk.join (json later))) := by
    simp [Chunk.join, json, line]
  rw [hjoin, bytesOf_append, bytesOf_append, bytesOf_append,
    List.getElem?_append_right (Nat.le_add_right ..), Nat.add_sub_cancel_left,
    List.getElem?_append_right (Nat.le_refl _), Nat.sub_self]
  rfl

/-- A line feed that is cut off is a failure of the stream. -/
theorem result_json_eq_io_iff (items : List Scanned) (room : Nat) :
    (Chunk.deliver room (json items)).result = .error (.io .writeZero) ↔
      EndsDocument items room ∧ (bytesOf (Chunk.join (json items)))[room]? = some 0x0A := by
  rw [and_iff_left_of_imp EndsDocument.getElem?, ← getElem?_eq_stream_iff, ← map_snd_labelled_json,
    ← Chunk.stoppedIn?_deliver]
  exact Delivery.result_eq_error_iff _ .stream

end Report

/-- **A limited receiver cuts a report off where it is full.** That holds of all three reports, and
in whatever pieces they are written. The report of tokens as text and that of diagnostics then fail
with the stream. The JSON report fails with a document if the byte that there was no room for is
inside of one, and with the stream if it is the line feed behind one. -/
theorem limited_receiver_cuts_off (items : List Scanned) (room : Nat) :
    (Report.CutsOff (Report.text items) room ∧ Report.CutsOff (Report.json items) room ∧
      Report.CutsOff (Report.diagnostics items) room) ∧
    ((Chunk.deliver room (Report.text items)).result = .error (.io .writeZero) ↔
      room < (bytesOf (Chunk.join (Report.text items))).length) ∧
    ((Chunk.deliver room (Report.diagnostics items)).result = .error (.io .writeZero) ↔
      room < (bytesOf (Chunk.join (Report.diagnostics items))).length) ∧
    ((Chunk.deliver room (Report.json items)).result = .error (.json .writeZero) ↔
      Report.InDocument items room) ∧
    ((Chunk.deliver room (Report.json items)).result = .error (.io .writeZero) ↔
      Report.EndsDocument items room ∧
        (bytesOf (Chunk.join (Report.json items)))[room]? = some 0x0A) := by
  refine ⟨⟨?_, ?_, ?_⟩, ?_, ?_, ?_, ?_⟩
  · exact Report.cutsOff (Report.text items) room
  · exact Report.cutsOff (Report.json items) room
  · exact Report.cutsOff (Report.diagnostics items) room
  · exact Report.result_eq_io_iff Report.part_of_mem_text room
  · exact Report.result_eq_io_iff Report.part_of_mem_diagnostics room
  · exact Report.result_json_eq_json_iff items room
  · exact Report.result_json_eq_io_iff items room

/-- The last byte of a document, the line feed behind it, and room for both. -/
example :
    let report := Report.json [⟨⟨"é", ""⟩, ⟨[], []⟩⟩]
    (Chunk.deliver 41 report).stoppedIn? = some .document ∧
      (Chunk.deliver 42 report).stoppedIn? = some .stream ∧
      (Chunk.deliver 43 report).stoppedIn? = none := by decide +kernel

end TokenScan
