import Mathlib
import OwlId.Lib.Streams
import OwlId.Lib.Text

/-! # Reading server-sent events from chunks

The service reads the sidecar's event stream in two places.  Both decode each chunk by itself
and keep the unfinished frame as text: `parseSseByteStream` skips a chunk that does not decode,
`consume` stops at it.  Cutting a stream between characters changes nothing for them unless an
event cannot be built; `sse_independent_of_chunks_iff` says when a cut is harmless.
-/

namespace OwlId.Verification

open OwlId.Lib

/-! ## Lines and fields -/

def stripCr (line : List Char) : List Char :=
  if line.getLast? = some '\r' then line.dropLast else line

/-- `str::lines`: each ends with a line feed, with or without a return before it, but the last
    need not. -/
def strLines (text : List Char) : List (List Char) :=
  let segments := text.splitOn '\n'
  segments.dropLast.map stripCr ++ segments.getLast?.toList.filter (· ≠ [])

structure SseEvent where
  event : Option String
  id : Option String
  data : Option String
deriving DecidableEq

/-- What the lines of a frame have set so far. -/
structure FrameFields where
  name : Option (List Char)
  id : Option (List Char)
  dataLines : List (List Char)
  commentOnly : Bool

/-- The field up to the first colon, and the value after it. -/
def readLine (fields : FrameFields) (line : List Char) : FrameFields :=
  if line.head? = some ':' then fields
  else
    let field := String.ofList (line.takeWhile (· ≠ ':'))
    let value := ((line.dropWhile (· ≠ ':')).drop 1).dropWhile (· = ' ')
    let fields := { fields with commentOnly := false }
    if field = "event" then { fields with name := some value }
    else if field = "id" then { fields with id := some value }
    else if field = "data" then { fields with dataLines := fields.dataLines ++ [value] }
    else fields

def frameFields (raw : List Char) : FrameFields :=
  (strLines raw).foldl readLine ⟨none, none, [], true⟩

/-- A value for a field of an event; the builder panics, here `none`, on these characters. -/
def eventValue (refused : List Char) : Option (List Char) → Option (Option String)
  | none => some none
  | some value => if value.any (refused.contains ·) then none else some (some (String.ofList value))

/-- The event of a frame, if it is more than comments. -/
def parseFrame (raw : List Char) : Option (Option SseEvent) :=
  let fields := frameFields raw
  if fields.commentOnly then some none
  else do
    let event ← eventValue ['\r', '\n'] fields.name
    let id ← eventValue ['\r', '\n', '\x00'] fields.id
    let data := if fields.dataLines = [] then none
      else some (String.ofList (['\n'].intercalate fields.dataLines))
    return some ⟨event, id, data⟩

/-! ## The two readers -/

/-- The events of the frames a chunk completes; `none` when building one panics. -/
def eventsOf (frames : List (List Char)) : Option (List SseEvent) :=
  (frames.mapM parseFrame).map List.reduceOption

structure SseReader where
  buf : List Char
  panicked : Bool
deriving DecidableEq

/-- A panic unwinds out of the stream: the chunk's events are lost and it is not polled again. -/
def SseReader.read (reader : SseReader) (bytes : Bytes) : SseReader × List SseEvent :=
  if reader.panicked then (reader, [])
  else
    match fromUtf8 bytes with
    | none => (reader, [])
    | some s =>
      let (frames, buf) := framesOf '\n' (reader.buf ++ s.toList)
      match eventsOf frames with
      | none => (⟨buf, true⟩, [])
      | some events => (⟨buf, false⟩, events)

def readChunks (reader : SseReader) : List Bytes → List SseEvent
  | [] => []
  | bytes :: rest => (reader.read bytes).2 ++ readChunks (reader.read bytes).1 rest

def parseSseByteStream (chunks : List Bytes) : List SseEvent := readChunks ⟨[], false⟩ chunks

/-- The text after `data:` on each line. -/
def parseSseData (frame : List Char) : Option String :=
  let data := (strLines frame).foldl (fun data line =>
    if "data:".toList.isPrefixOf line then
      (if data = [] then [] else data ++ ['\n']) ++ (line.drop 5).dropWhile isWhitespace
    else data) []
  if data = [] then none else some (String.ofList data)

/-- The frames takenFrame out of the buffer, each with the data handed on; a chunk that does not
    decode ends the loop. -/
def consumeFrom (buf : List Char) : List Bytes → List (List Char × Option String)
  | [] => []
  | bytes :: rest =>
    match fromUtf8 bytes with
    | none => []
    | some s =>
      let (frames, buf) := framesOf '\n' (buf ++ s.toList)
      (frames.map fun raw => (raw ++ ['\n', '\n'], parseSseData (raw ++ ['\n', '\n']))) ++
        consumeFrom buf rest

def consume (chunks : List Bytes) : List (List Char × Option String) := consumeFrom [] chunks

def sampleStream : String := "event: a\ndata: é\n\n: ping\n\ndata: x\n\n"

example : parseSseByteStream [asBytes sampleStream] =
    [⟨some "a", none, some "é"⟩, ⟨none, none, some "x"⟩] := by decide

/-! ## Events of frames -/

/-- The frame has an event whose fields the builder takes, or none. -/
def buildable (raw : List Char) : Bool := (parseFrame raw).isSome

theorem parseFrame_comment {raw : List Char} :
    parseFrame raw = some none ↔ (frameFields raw).commentOnly = true := by
  rw [parseFrame]
  cases comment : (frameFields raw).commentOnly with
  | true => simp
  | false =>
    simp only [Bool.false_eq_true, if_false, iff_false]
    cases eventValue ['\r', '\n'] (frameFields raw).name with
    | none => nofun
    | some event =>
      cases eventValue ['\r', '\n', '\x00'] (frameFields raw).id with
      | none => nofun
      | some id => nofun

theorem eventsOf_nil : eventsOf [] = some [] := rfl

theorem eventsOf_cons (raw : List Char) (frames : List (List Char)) :
    eventsOf (raw :: frames) =
      (parseFrame raw).bind fun event => (eventsOf frames).map (event.toList ++ ·) := by
  rw [eventsOf, List.mapM_cons]
  cases parseFrame raw with
  | none => rfl
  | some event =>
    rw [eventsOf]
    cases frames.mapM parseFrame with
    | none => rfl
    | some events => cases event <;> rfl

theorem eventsOf_append (first second : List (List Char)) :
    eventsOf (first ++ second) =
      (eventsOf first).bind fun events => (eventsOf second).map (events ++ ·) := by
  induction first with
  | nil =>
    rw [List.nil_append, eventsOf_nil, Option.bind_some]
    exact Option.map_id'.symm
  | cons raw first ih =>
    rw [List.cons_append, eventsOf_cons, eventsOf_cons, ih]
    cases parseFrame raw with
    | none => rfl
    | some event =>
      cases eventsOf first with
      | none => rfl
      | some events =>
        cases eventsOf second with
        | none => rfl
        | some others =>
          show some (event.toList ++ (events ++ others)) = some ((event.toList ++ events) ++ others)
          rw [List.append_assoc]

theorem eventsOf_isSome {frames : List (List Char)} :
    (eventsOf frames).isSome = true ↔ ∀ raw ∈ frames, buildable raw = true := by
  induction frames with
  | nil => simp [eventsOf_nil]
  | cons raw frames ih =>
    rw [eventsOf_cons, List.forall_mem_cons, ← ih, buildable]
    cases parseFrame raw <;> simp

theorem eventsOf_eq_nil {frames : List (List Char)} : eventsOf frames = some [] ↔
    ∀ raw ∈ frames, (frameFields raw).commentOnly = true := by
  induction frames with
  | nil => simp [eventsOf_nil]
  | cons raw frames ih =>
    rw [eventsOf_cons, List.forall_mem_cons, ← ih, ← parseFrame_comment]
    cases parseFrame raw with
    | none => simp
    | some event => cases event <;> simp

/-! ## The reader on batches of frames -/

/-- What is emitted for the frames that each chunk completes. -/
def emittedEvents : List (List (List Char)) → List SseEvent
  | [] => []
  | frames :: rest =>
    match eventsOf frames with
    | none => []
    | some events => events ++ emittedEvents rest

theorem emitted_append (first second : List (List (List Char))) :
    ((eventsOf first.flatten).isSome = true →
      eventsOf first.flatten = some (emittedEvents first) ∧
      emittedEvents (first ++ second) = emittedEvents first ++ emittedEvents second) ∧
    ((eventsOf first.flatten).isSome = false →
      emittedEvents (first ++ second) = emittedEvents first) := by
  induction first with
  | nil => simp [eventsOf_nil, emittedEvents]
  | cons frames first ih =>
    rw [List.flatten_cons, eventsOf_append, List.cons_append, emittedEvents, emittedEvents]
    cases eventsOf frames with
    | none => simp
    | some events =>
      rw [Option.bind_some, Option.isSome_map]
      constructor
      · intro builds
        obtain ⟨same, both⟩ := ih.1 builds
        refine ⟨by rw [same]; rfl, ?_⟩
        show events ++ emittedEvents (first ++ second) =
          (events ++ emittedEvents first) ++ emittedEvents second
        rw [both, List.append_assoc]
      · intro refused
        show events ++ emittedEvents (first ++ second) = events ++ emittedEvents first
        rw [ih.2 refused]

/-- Nothing but comments before the first batch with a frame that cannot be built. -/
def Silent (batches : List (List (List Char))) : Prop :=
  ∀ frames ∈ batches.takeWhile (fun frames => frames.all buildable),
    ∀ raw ∈ frames, (frameFields raw).commentOnly = true

theorem emitted_eq_nil {batches : List (List (List Char))} : emittedEvents batches = [] ↔
    Silent batches := by
  induction batches with
  | nil => simp [emittedEvents, Silent]
  | cons frames rest ih =>
    rw [emittedEvents, Silent]
    by_cases builds : frames.all buildable = true
    · obtain ⟨events, built⟩ := Option.isSome_iff_exists.mp
        (eventsOf_isSome.mpr (List.all_eq_true.mp builds))
      rw [List.takeWhile_cons, if_pos builds, List.forall_mem_cons, built]
      show events ++ emittedEvents rest = [] ↔ _ ∧ Silent rest
      rw [List.append_eq_nil_iff, ih, ← eventsOf_eq_nil, built, Option.some.injEq]
    · have refused : eventsOf frames = none := by
        rw [← Option.not_isSome_iff_eq_none, eventsOf_isSome, ← List.all_eq_true]
        exact builds
      rw [List.takeWhile_cons, if_neg builds, refused]
      simp

/-! ## Chunks as texts -/

/-- What a chunk adds to the buffer that skips the undecodable ones. -/
def chunkText (bytes : Bytes) : List Char :=
  match fromUtf8 bytes with
  | some s => s.toList
  | none => []

def decodable (bytes : Bytes) : Bool := (fromUtf8 bytes).isSome

theorem readChunks_panicked (buf : List Char) (chunks : List Bytes) :
    readChunks ⟨buf, true⟩ chunks = [] := by
  induction chunks with
  | nil => rfl
  | cons bytes rest ih =>
    have stopped : SseReader.read ⟨buf, true⟩ bytes = (⟨buf, true⟩, []) := rfl
    rw [readChunks, stopped, List.nil_append, ih]

theorem readChunks_eq {buf : List Char} (unfinished : framesOf '\n' buf = ([], buf))
    (chunks : List Bytes) :
    readChunks ⟨buf, false⟩ chunks = emittedEvents (completed '\n' buf (chunks.map chunkText)) := by
  induction chunks generalizing buf with
  | nil => rfl
  | cons bytes rest ih =>
    rw [readChunks, List.map_cons, completed, chunkText, SseReader.read, emittedEvents]
    cases fromUtf8 bytes with
    | none =>
      -- a skipped chunk reads like an empty one
      rw [List.append_nil, unfinished, eventsOf_nil]
      exact ih unfinished
    | some s =>
      simp only [Bool.false_eq_true, if_false]
      cases eventsOf (framesOf '\n' (buf ++ s.toList)).1 with
      | none => exact readChunks_panicked _ rest
      | some events => exact congrArg (events ++ ·) (ih (framesOf_idempotent _))

/-- A frame and its data, as the loop takes it out. -/
def takenFrame (raw : List Char) : List Char × Option String :=
  (raw ++ ['\n', '\n'], parseSseData (raw ++ ['\n', '\n']))

theorem taken_injective : Function.Injective takenFrame := by
  intro raw raw' same
  exact List.append_cancel_right (congrArg Prod.fst same)

theorem consumeFrom_eq {buf : List Char} (unfinished : framesOf '\n' buf = ([], buf))
    (chunks : List Bytes) :
    consumeFrom buf chunks =
      (framesOf '\n' (buf ++ (chunks.takeWhile decodable).flatMap chunkText)).1.map takenFrame := by
  induction chunks generalizing buf with
  | nil =>
    rw [List.takeWhile_nil, List.flatMap_nil, List.append_nil, unfinished]
    rfl
  | cons bytes rest ih =>
    rw [consumeFrom]
    cases decoded : fromUtf8 bytes with
    | none =>
      rw [List.takeWhile_cons_of_neg (by simp [decodable, decoded]), List.flatMap_nil,
        List.append_nil, unfinished]
      rfl
    | some s =>
      have text : chunkText bytes = s.toList := by rw [chunkText, decoded]
      rw [List.takeWhile_cons_of_pos (by simp [decodable, decoded]), List.flatMap_cons, text,
        ← List.append_assoc, framesOf_append (buf ++ s.toList), List.map_append,
        ← ih (framesOf_idempotent _)]
      rfl

/-! ## Harmless cuts -/

/-- The chunks before the first that does not decode. -/
def wholeChunks (chunks : List Bytes) : List Bytes := chunks.takeWhile decodable

/-- The first that does not decode, and those after it. -/
def tornChunks (chunks : List Bytes) : List Bytes := chunks.dropWhile decodable

/-- The unfinished frame in the buffer when the first torn chunk comes. -/
def bufferedText (chunks : List Bytes) : List Char :=
  (framesOf '\n' ((wholeChunks chunks).flatMap chunkText)).2

/-- The text of the stream from the first torn chunk on. -/
def textLeft (text : String) (chunks : List Bytes) : List Char :=
  text.toList.drop ((wholeChunks chunks).flatMap chunkText).length

/-- No frame ends once a chunk was torn.  And where every frame can be built, the texts between
    the torn chunks do not join to one with an event; where one cannot, no event comes in an
    earlier chunk than it. -/
structure HarmlessCut (text : String) (chunks : List Bytes) : Prop where
  ended : ¬['\n', '\n'] <:+: bufferedText chunks ++ textLeft text chunks
  built : (∀ raw ∈ (framesOf '\n' text.toList).1, buildable raw = true) →
    Silent (completed '\n' (bufferedText chunks) ((tornChunks chunks).map chunkText))
  refused : ¬(∀ raw ∈ (framesOf '\n' text.toList).1, buildable raw = true) →
    Silent (completed '\n' [] ((wholeChunks chunks).map chunkText))

theorem decoded_wholeChunks (chunks : List Bytes) : ∃ s : String,
    asBytes s = (wholeChunks chunks).flatten ∧
      s.toList = (wholeChunks chunks).flatMap chunkText := by
  have decodes : ∀ bytes ∈ wholeChunks chunks, decodable bytes = true :=
    fun _ member => List.mem_takeWhile_imp member
  revert decodes
  induction wholeChunks chunks with
  | nil => exact fun _ => ⟨"", rfl, rfl⟩
  | cons bytes rest ih =>
    intro decodes
    obtain ⟨s, encoded, text⟩ :=
      ih fun other member => decodes other (List.mem_cons_of_mem _ member)
    obtain ⟨t, decoded⟩ := Option.isSome_iff_exists.mp (decodes bytes List.mem_cons_self)
    refine ⟨t ++ s, ?_, ?_⟩
    · rw [asBytes_append, encoded, fromUtf8_eq_some.mp decoded, List.flatten_cons]
    · rw [String.toList_append, text, List.flatMap_cons, chunkText, decoded]

/-- The stream is what was decoded and what is left. -/
theorem text_split {text : String} {chunks : List Bytes} (stream : chunks.flatten = asBytes text) :
    text.toList = (wholeChunks chunks).flatMap chunkText ++ textLeft text chunks := by
  obtain ⟨s, encoded, decoded⟩ := decoded_wholeChunks chunks
  have bytes : asBytes s ++ (tornChunks chunks).flatten = asBytes text := by
    rw [encoded, ← List.flatten_append, wholeChunks, tornChunks,
      List.takeWhile_append_dropWhile, stream]
  obtain ⟨u, _, split⟩ := asBytes_append_eq bytes
  rw [textLeft, ← decoded, split, String.toList_append, List.drop_left]

theorem consume_single (text : String) :
    consume [asBytes text] = (framesOf '\n' text.toList).1.map takenFrame := by
  have frames := @consumeFrom_eq [] rfl [asBytes text]
  rw [List.takeWhile_cons_of_pos (by simp [decodable]), List.takeWhile_nil, List.flatMap_cons,
    List.flatMap_nil, List.append_nil, List.nil_append, chunkText, fromUtf8_asBytes] at frames
  exact frames

theorem parseSseByteStream_single (text : String) :
    parseSseByteStream [asBytes text] = emittedEvents [(framesOf '\n' text.toList).1] := by
  have batches := @readChunks_eq [] rfl [asBytes text]
  rw [List.map_singleton, chunkText, fromUtf8_asBytes] at batches
  exact batches

theorem frames_split {text : String} {chunks : List Bytes}
    (stream : chunks.flatten = asBytes text) : (framesOf '\n' text.toList).1 =
      (framesOf '\n' ((wholeChunks chunks).flatMap chunkText)).1 ++
        (framesOf '\n' (bufferedText chunks ++ textLeft text chunks)).1 := by
  rw [text_split stream, framesOf_append]
  rfl

/-- The loop takes out the frames of the whole stream when none ends after a torn chunk. -/
theorem consume_eq_iff {text : String} {chunks : List Bytes}
    (stream : chunks.flatten = asBytes text) :
    consume chunks = consume [asBytes text] ↔
      ¬['\n', '\n'] <:+: bufferedText chunks ++ textLeft text chunks := by
  have read := @consumeFrom_eq [] rfl chunks
  rw [List.nil_append] at read
  rw [consume_single, frames_split stream, consume, read, ← framesOf_eq_nil_iff,
    taken_injective.list_map.eq_iff]
  exact List.self_eq_append_right

/-- The frames completed before a chunk was torn, chunk by chunk, and after it. -/
theorem parseSseByteStream_eq (chunks : List Bytes) : parseSseByteStream chunks =
    emittedEvents (completed '\n' [] ((wholeChunks chunks).map chunkText) ++
      completed '\n' (bufferedText chunks) ((tornChunks chunks).map chunkText)) := by
  have batches := @readChunks_eq [] rfl chunks
  have split : chunks.map chunkText =
      (wholeChunks chunks).map chunkText ++ (tornChunks chunks).map chunkText := by
    rw [← List.map_append, wholeChunks, tornChunks, List.takeWhile_append_dropWhile]
  rw [split, completed_append rfl, List.nil_append, ← List.flatMap_def] at batches
  exact batches

theorem parseSseByteStream_eq_iff {text : String} {chunks : List Bytes}
    (stream : chunks.flatten = asBytes text)
    (ended : ¬['\n', '\n'] <:+: bufferedText chunks ++ textLeft text chunks) :
    parseSseByteStream chunks = parseSseByteStream [asBytes text] ↔
      ((∀ raw ∈ (framesOf '\n' text.toList).1, buildable raw = true) →
        Silent (completed '\n' (bufferedText chunks) ((tornChunks chunks).map chunkText))) ∧
      (¬(∀ raw ∈ (framesOf '\n' text.toList).1, buildable raw = true) →
        Silent (completed '\n' [] ((wholeChunks chunks).map chunkText))) := by
  have flat : (completed '\n' [] ((wholeChunks chunks).map chunkText)).flatten =
      (framesOf '\n' text.toList).1 := by
    rw [completed_flatten rfl, List.nil_append, ← List.flatMap_def, frames_split stream,
      framesOf_eq_nil_iff.mpr ended, List.append_nil]
  obtain ⟨builds, refuses⟩ := emitted_append
    (completed '\n' [] ((wholeChunks chunks).map chunkText))
    (completed '\n' (bufferedText chunks) ((tornChunks chunks).map chunkText))
  rw [flat] at builds refuses
  rw [parseSseByteStream_eq, parseSseByteStream_single, ← eventsOf_isSome, emittedEvents,
    ← emitted_eq_nil, ← emitted_eq_nil]
  cases built : eventsOf (framesOf '\n' text.toList).1 with
  | some events =>
    rw [built] at builds
    obtain ⟨same, both⟩ := builds rfl
    cases same
    simp [both, emittedEvents]
  | none =>
    rw [built] at refuses
    simp [refuses rfl]

/-- However a stream is cut into chunks, both readers make of it what they make of it in one
    piece exactly when the cut is harmless. -/
theorem sse_independent_of_chunks_iff (text : String) (chunks : List Bytes)
    (stream : chunks.flatten = asBytes text) :
    (parseSseByteStream chunks = parseSseByteStream [chunks.flatten] ∧
      consume chunks = consume [chunks.flatten]) ↔ HarmlessCut text chunks := by
  rw [stream, consume_eq_iff stream]
  constructor
  · rintro ⟨events, ended⟩
    obtain ⟨built, refused⟩ := (parseSseByteStream_eq_iff stream ended).mp events
    exact ⟨ended, built, refused⟩
  · intro harmless
    exact ⟨(parseSseByteStream_eq_iff stream harmless.ended).mpr
      ⟨harmless.built, harmless.refused⟩, harmless.ended⟩

/-! ### Cuts that are harmless, and one inside a character -/

/-- A character cut in two, in a comment. -/
def commentCut : List Bytes :=
  [asBytes "data: x\n\n: ", [0xc3], [0xa9], asBytes "\ndata"]

theorem sse_independent_of_chunks_at_comment :
    parseSseByteStream commentCut = parseSseByteStream [commentCut.flatten] ∧
      consume commentCut = consume [commentCut.flatten] :=
  (sse_independent_of_chunks_iff "data: x\n\n: é\ndata" commentCut (by decide)).mpr
    ⟨by decide, fun _ => by rw [Silent]; decide, fun refused => (refused (by decide)).elim⟩

/-- The same character in an event that is then lost: skipped by one reader, the end of the
    stream for the other. -/
theorem cut_character_loses_event :
    ([asBytes "data: ", [0xc3], [0xa9], asBytes "\n\n"].flatten = asBytes "data: é\n\n") ∧
    parseSseByteStream [asBytes "data: é\n\n"] = [⟨none, none, some "é"⟩] ∧
    parseSseByteStream [asBytes "data: ", [0xc3], [0xa9], asBytes "\n\n"] =
      [⟨none, none, some ""⟩] ∧
    consume [asBytes "data: é\n\n"] = [("data: é\n\n".toList, some "é")] ∧
    consume [asBytes "data: ", [0xc3], [0xa9], asBytes "\n\n"] = [] := by
  decide

end OwlId.Verification
