/-
This file models the connection between the store server and the data server. A request is sent
as a frame of the size of the message buffer, its text and zeros behind it. A read returns any
number of the next bytes, at least one and at most a frame's worth, and the thread of the
connection handles whatever one read returned as a request.

A text is handled as it was sent exactly when each read returns a whole frame
(`handled_eq_iff`). A cut between the text of a frame and the next frame only yields a call that
finds no text. The requests themselves survive exactly when all cuts are of that kind.
-/

import OnlineStore.Handlers
import Mathlib.Algebra.Order.BigOperators.Group.List
import Mathlib.Algebra.Order.Ring.Nat
import Mathlib.Algebra.Ring.Nat

namespace OnlineStore

open CString Prog

/-! ### Frames -/

def MSG_BUFFER_SIZE : Nat := 10240

/-- The byte that ends a string, and fills a frame. -/
def nul : Char := Char.ofNat 0

/-- A text that a message buffer holds as a string. -/
structure IsMessage (text : Text) : Prop where
  fits : text.length < MSG_BUFFER_SIZE
  nulFree : nul ∉ text

/-- The bytes that `writeSocket2` sends for a text in a zeroed message buffer. -/
def frame (text : Text) : Text :=
  text ++ List.replicate (MSG_BUFFER_SIZE - text.length) nul

/-- The string that the message buffer, zeroed before, holds after a read. -/
def readSocket (chunk : Text) : Text :=
  chunk.takeWhile (· != nul)

/-- The bytes of the frames of these texts arrive in these pieces. -/
structure Delivered (texts chunks : List Text) : Prop where
  stream : chunks.flatten = texts.flatMap frame
  bounded : ∀ chunk ∈ chunks, 1 ≤ chunk.length ∧ chunk.length ≤ MSG_BUFFER_SIZE

/-- The texts that the calls of `executeTaskOnServer` find in their buffers. -/
def handled (chunks : List Text) : List Text :=
  chunks.map readSocket

/-- The thread of a connection. Each element is what one read returns. -/
def threadTask (rand : Rand) (chunks : List Text) : Handler Unit :=
  chunks.forM fun chunk => executeTaskOnServer rand (readSocket chunk)

theorem threadTask_eq (rand : Rand) (chunks : List Text) :
    threadTask rand chunks = (handled chunks).forM (executeTaskOnServer rand) := by
  induction chunks with
  | nil => rfl
  | cons chunk chunks inductionHypothesis =>
    exact congrArg (executeTaskOnServer rand (readSocket chunk) >>= ·)
      (funext fun _ => inductionHypothesis)

theorem length_frame {text : Text} (message : IsMessage text) :
    (frame text).length = MSG_BUFFER_SIZE := by
  rw [frame, List.length_append, List.length_replicate]
  exact Nat.add_sub_of_le (Nat.le_of_lt message.fits)

/-- Behind a text without zeros the first zero ends the string. -/
theorem readSocket_append {text : Text} (nulFree : nul ∉ text) (rest : Text) :
    readSocket (text ++ rest) = text ++ readSocket rest := by
  refine List.takeWhile_append_of_pos fun char member => ?_
  simpa using fun same : char = nul => nulFree (same ▸ member)

@[simp] theorem readSocket_replicate (count : Nat) (rest : Text) :
    readSocket (List.replicate (count + 1) nul ++ rest) = [] := by
  simp [readSocket, List.replicate_succ]

theorem readSocket_zeros (count : Nat) : readSocket (List.replicate count nul) = [] := by
  cases count with
  | zero => rfl
  | succ count => simpa using readSocket_replicate count []

/-- A read that begins with a frame's text and ends within the frame finds the text. -/
theorem readSocket_padded {text : Text} (message : IsMessage text) (count : Nat) :
    readSocket (text ++ List.replicate count nul) = text := by
  rw [readSocket_append message.nulFree, readSocket_zeros, List.append_nil]

/-- A read within the padding of a frame finds no text. -/
theorem readSocket_of_mem_padding {chunk : Text} {padding : List Text} {count : Nat}
    (zeros : padding.flatten = List.replicate count nul) (member : chunk ∈ padding) :
    readSocket chunk = [] := by
  have each : ∀ char ∈ chunk, char = nul := fun char inChunk =>
    List.eq_of_mem_replicate (zeros ▸ List.mem_flatten.mpr ⟨chunk, member, inChunk⟩)
  rw [List.eq_replicate_of_mem each]
  exact readSocket_zeros _

/-! ### Whole frames -/

/-- Lengths of at most a bound that add up to the bound for each are the bound. -/
theorem eq_of_sum_eq {lengths : List Nat} {bound : Nat} (bounded : ∀ each ∈ lengths, each ≤ bound)
    (total : lengths.sum = bound * lengths.length) : ∀ each ∈ lengths, each = bound := by
  induction lengths with
  | nil => exact fun each member => absurd member List.not_mem_nil
  | cons first rest inductionHypothesis =>
    have atMost : rest.sum ≤ rest.length * bound :=
      List.sum_le_card_nsmul rest bound fun each member =>
        bounded each (List.mem_cons_of_mem _ member)
    have head : first ≤ bound := bounded first List.mem_cons_self
    simp only [List.sum_cons, List.length_cons, Nat.mul_succ] at total
    rw [Nat.mul_comm] at atMost
    refine List.forall_mem_cons.mpr ⟨by omega, inductionHypothesis ?_ (by omega)⟩
    exact fun each member => bounded each (List.mem_cons_of_mem _ member)

/-- Together the frames are as long as that many message buffers. -/
theorem length_flatMap_frame {texts : List Text} (messages : ∀ text ∈ texts, IsMessage text) :
    (texts.flatMap frame).length = MSG_BUFFER_SIZE * texts.length := by
  induction texts with
  | nil => rfl
  | cons text texts inductionHypothesis =>
    rw [List.flatMap_cons, List.length_append, length_frame (messages text List.mem_cons_self),
      inductionHypothesis fun other member => messages other (List.mem_cons_of_mem _ member),
      List.length_cons, Nat.mul_succ, Nat.add_comm]

/-- Every frame that is read whole is handled as it was sent. -/
theorem handled_of_whole {texts chunks : List Text} (messages : ∀ text ∈ texts, IsMessage text)
    (stream : chunks.flatten = texts.flatMap frame)
    (whole : ∀ chunk ∈ chunks, chunk.length = MSG_BUFFER_SIZE) : handled chunks = texts := by
  induction texts generalizing chunks with
  | nil =>
    cases chunks with
    | nil => rfl
    | cons chunk chunks =>
      have first := whole chunk List.mem_cons_self
      have empty : chunk = [] := (List.append_eq_nil_iff.mp stream).1
      rw [empty] at first
      cases first
  | cons text texts inductionHypothesis =>
    have message := messages text List.mem_cons_self
    cases chunks with
    | nil =>
      have padded := congrArg List.length stream
      rw [length_flatMap_frame messages] at padded
      exact absurd padded (by simp [MSG_BUFFER_SIZE])
    | cons chunk chunks =>
      have first := whole chunk List.mem_cons_self
      obtain ⟨rfl, rest⟩ := List.append_inj stream (first.trans (length_frame message).symm)
      have others := inductionHypothesis
        (fun other member => messages other (List.mem_cons_of_mem _ member)) rest
        fun other member => whole other (List.mem_cons_of_mem _ member)
      rw [handled, List.map_cons, frame, readSocket_padded message]
      exact congrArg (text :: ·) others

/-- As many calls as requests are possible only if each read returns a whole frame. -/
theorem whole_of_length_eq {texts chunks : List Text}
    (messages : ∀ text ∈ texts, IsMessage text) (delivered : Delivered texts chunks)
    (count : chunks.length = texts.length) :
    ∀ chunk ∈ chunks, chunk.length = MSG_BUFFER_SIZE := by
  have total : (chunks.map List.length).sum = MSG_BUFFER_SIZE * (chunks.map List.length).length := by
    rw [← List.length_flatten, delivered.stream, length_flatMap_frame messages, List.length_map,
      count]
  have each := eq_of_sum_eq (List.forall_mem_map.mpr fun chunk member =>
    (delivered.bounded chunk member).2) total
  exact List.forall_mem_map.mp each

/-! ### Whole requests -/

/-- For each text, one read that returns at least the text, and then reads that return the rest
of its frame. -/
inductive CutBehindTexts : List Text → List Text → Prop where
  | nil : CutBehindTexts [] []
  | cons {text first : Text} {texts padding chunks : List Text} :
      text.length ≤ first.length → first.length + padding.flatten.length = MSG_BUFFER_SIZE →
      CutBehindTexts texts chunks → CutBehindTexts (text :: texts) (first :: (padding ++ chunks))

/-- The calls that find a text. -/
def requested (chunks : List Text) : List Text :=
  (handled chunks).filter (· ≠ [])

theorem requested_append (first second : List Text) :
    requested (first ++ second) = requested first ++ requested second := by
  simp only [requested, handled, List.map_append, List.filter_append]

theorem requested_cons_of_text {chunk text : Text} (nonempty : text ≠ [])
    (found : readSocket chunk = text) (chunks : List Text) :
    requested (chunk :: chunks) = text :: requested chunks := by
  rw [requested, handled, List.map_cons, found, List.filter_cons_of_pos (by simpa using nonempty)]
  rfl

theorem requested_cons_of_empty {chunk : Text} (empty : readSocket chunk = [])
    (chunks : List Text) : requested (chunk :: chunks) = requested chunks := by
  rw [requested, handled, List.map_cons, empty, List.filter_cons_of_neg (by simp)]
  rfl

theorem requested_padding {padding : List Text} {count : Nat}
    (zeros : padding.flatten = List.replicate count nul) : requested padding = [] := by
  refine List.filter_eq_nil_iff.mpr fun text member => ?_
  obtain ⟨chunk, inPadding, rfl⟩ := List.mem_map.mp member
  simpa using readSocket_of_mem_padding zeros inPadding

theorem prefix_of_append_eq {first second third fourth : Text}
    (same : first ++ second = third ++ fourth) (short : first.length ≤ third.length) :
    ∃ left, third = first ++ left ∧ second = left ++ fourth := by
  obtain ⟨left, rfl⟩ := List.prefix_of_prefix_length_le ⟨second, rfl⟩ ⟨fourth, same.symm⟩ short
  exact ⟨left, rfl, List.append_cancel_left (same.trans (List.append_assoc ..))⟩

/-- What the reads of one frame return when the first one returns its text. -/
theorem cut_frame {text first rest : Text} (whole : first ++ rest = frame text)
    (reaches : text.length ≤ first.length) :
    (∃ count, first = text ++ List.replicate count nul) ∧
      ∃ count, rest = List.replicate count nul := by
  obtain ⟨read, long, zeros⟩ := prefix_of_append_eq whole.symm reaches
  obtain ⟨-, same, behind⟩ := List.append_eq_replicate_iff.mp zeros.symm
  exact ⟨⟨read.length, by rw [long]; exact congrArg (text ++ ·) same⟩, _, behind⟩

theorem requested_of_cut {texts chunks : List Text} (messages : ∀ text ∈ texts, IsMessage text)
    (nonempty : ∀ text ∈ texts, text ≠ []) (stream : chunks.flatten = texts.flatMap frame)
    (cut : CutBehindTexts texts chunks) : requested chunks = texts := by
  induction cut with
  | nil => rfl
  | @cons text first texts padding chunks reaches fills rest inductionHypothesis =>
    have message := messages text List.mem_cons_self
    rw [List.flatten_cons, List.flatten_append, ← List.append_assoc, List.flatMap_cons] at stream
    obtain ⟨own, others⟩ := List.append_inj stream
      (by rw [List.length_append, fills, length_frame message])
    obtain ⟨⟨count, found⟩, _, zeros⟩ := cut_frame own reaches
    rw [requested_cons_of_text (nonempty text List.mem_cons_self)
        (found ▸ readSocket_padded message count),
      requested_append, requested_padding zeros, List.nil_append,
      inductionHypothesis (fun other member => messages other (List.mem_cons_of_mem _ member))
        (fun other member => nonempty other (List.mem_cons_of_mem _ member)) others]

/-- The calls together find no more than was sent. -/
theorem length_requested_le (chunks : List Text) :
    (requested chunks).flatten.length ≤ (chunks.flatten.filter (· ≠ nul)).length := by
  induction chunks with
  | nil => exact Nat.zero_le _
  | cons chunk chunks inductionHypothesis =>
    have found : (readSocket chunk).length ≤ (chunk.filter (· ≠ nul)).length := by
      have kept : (readSocket chunk).filter (· ≠ nul) = readSocket chunk :=
        List.filter_eq_self.mpr fun char member => by
          simpa using List.mem_takeWhile_imp member
      rw [← kept]
      exact ((List.takeWhile_sublist _).filter _).length_le
    rw [List.flatten_cons, List.filter_append, List.length_append]
    by_cases empty : readSocket chunk = []
    · rw [requested_cons_of_empty empty]
      omega
    · rw [requested_cons_of_text empty rfl, List.flatten_cons, List.length_append]
      omega

theorem filter_frames {texts : List Text} (messages : ∀ text ∈ texts, IsMessage text) :
    (texts.flatMap frame).filter (· ≠ nul) = texts.flatten := by
  induction texts with
  | nil => rfl
  | cons text texts inductionHypothesis =>
    have kept : text.filter (· ≠ nul) = text := List.filter_eq_self.mpr fun char member => by
      simpa using fun same : char = nul =>
        (messages text List.mem_cons_self).nulFree (same ▸ member)
    have dropped (count : Nat) : (List.replicate count nul).filter (· ≠ nul) = [] :=
      List.filter_eq_nil_iff.mpr fun char member => by simpa using List.eq_of_mem_replicate member
    rw [List.flatMap_cons, frame, List.filter_append, List.filter_append, kept, dropped,
      List.append_nil, inductionHypothesis fun other member =>
        messages other (List.mem_cons_of_mem _ member), List.flatten_cons]

/-- A read that runs from padding into a text loses the beginning of the text. -/
theorem lost_beginning {texts chunks : List Text} {beginning : Text}
    (messages : ∀ text ∈ texts, IsMessage text) (nonempty : ∀ text ∈ texts, text ≠ [])
    (stream : beginning ++ chunks.flatten = texts.flatMap frame)
    (same : requested chunks = texts) : beginning = [] := by
  cases texts with
  | nil => exact (List.append_eq_nil_iff.mp stream).1
  | cons text texts =>
    cases text with
    | nil => exact absurd rfl (nonempty [] List.mem_cons_self)
    | cons char text =>
      cases beginning with
      | nil => rfl
      | cons first beginning =>
        have head : first = char := by
          rw [List.flatMap_cons, frame] at stream
          exact (List.cons.inj stream).1
        have other : first ≠ nul := fun isNul =>
          (messages _ List.mem_cons_self).nulFree (by rw [← isNul, head]; exact List.mem_cons_self)
        have found := length_requested_le chunks
        have sent := congrArg (fun bytes => (bytes.filter (· ≠ nul)).length) stream
        simp only [filter_frames messages, List.filter_append, List.length_append] at sent
        rw [List.filter_cons_of_pos (by simpa using other), List.length_cons] at sent
        rw [same] at found
        omega

theorem cut_padding {texts chunks : List Text} {count : Nat}
    (messages : ∀ text ∈ texts, IsMessage text) (nonempty : ∀ text ∈ texts, text ≠ [])
    (stream : chunks.flatten = List.replicate count nul ++ texts.flatMap frame)
    (read : ∀ chunk ∈ chunks, chunk ≠ []) (same : requested chunks = texts) :
    ∃ padding others, chunks = padding ++ others ∧ padding.flatten = List.replicate count nul ∧
      others.flatten = texts.flatMap frame ∧ requested others = texts := by
  induction chunks generalizing count with
  | nil =>
    obtain ⟨zeros, frames⟩ := List.append_eq_nil_iff.mp stream.symm
    exact ⟨[], [], rfl, zeros.symm, frames.symm, same⟩
  | cons chunk chunks inductionHypothesis =>
    cases count with
    | zero => exact ⟨[], chunk :: chunks, rfl, rfl, stream, same⟩
    | succ count =>
      have some := read chunk List.mem_cons_self
      rw [List.flatten_cons] at stream
      have empty : readSocket chunk = [] := by
        cases chunk with
        | nil => rfl
        | cons first chunk =>
          rw [List.replicate_succ] at stream
          have isNul : first = nul := (List.cons.inj stream).1
          simp [readSocket, isNul]
      rw [requested_cons_of_empty empty] at same
      rcases List.append_eq_append_iff.mp stream with ⟨left, zeros, rest⟩ | ⟨lost, long, rest⟩
      · obtain ⟨-, own, more⟩ := List.append_eq_replicate_iff.mp zeros.symm
        rw [more] at rest
        obtain ⟨padding, others, rfl, behind, frames, found⟩ := inductionHypothesis rest
          (fun other member => read other (List.mem_cons_of_mem _ member)) same
        refine ⟨chunk :: padding, others, rfl, ?_, frames, found⟩
        rw [List.flatten_cons, behind, ← more, zeros]
      · have none := lost_beginning messages nonempty rest.symm same
        rw [none, List.append_nil] at long
        rw [none, List.nil_append] at rest
        exact ⟨[chunk], chunks, rfl, by rw [long]; exact List.flatten_singleton, rest.symm, same⟩

theorem cut_of_requested {texts chunks : List Text} (messages : ∀ text ∈ texts, IsMessage text)
    (nonempty : ∀ text ∈ texts, text ≠ []) (delivered : Delivered texts chunks)
    (same : requested chunks = texts) : CutBehindTexts texts chunks := by
  have read : ∀ chunk ∈ chunks, chunk ≠ [] := fun chunk member =>
    List.length_pos_iff.mp (delivered.bounded chunk member).1
  induction texts generalizing chunks with
  | nil =>
    cases chunks with
    | nil => exact .nil
    | cons chunk chunks =>
      exact absurd (List.append_eq_nil_iff.mp delivered.stream).1 (read chunk List.mem_cons_self)
  | cons text texts inductionHypothesis =>
    have message := messages text List.mem_cons_self
    cases chunks with
    | nil => cases same
    | cons first chunks =>
      have stream := delivered.stream
      rw [List.flatten_cons, List.flatMap_cons] at stream
      have bound : first.length ≤ (frame text).length := by
        rw [length_frame message]
        exact (delivered.bounded first List.mem_cons_self).2
      obtain ⟨left, own, rest⟩ := prefix_of_append_eq stream bound
      have reaches : text.length ≤ first.length := by
        by_contra short
        obtain ⟨missing, begins, -⟩ := prefix_of_append_eq own.symm (Nat.le_of_not_le short)
        have whole : readSocket first = first := by
          have nulFree : nul ∉ first := fun member =>
            message.nulFree (begins ▸ List.mem_append_left _ member)
          simpa [readSocket] using readSocket_append nulFree []
        rw [requested_cons_of_text (read first List.mem_cons_self) whole] at same
        exact short (congrArg List.length (List.cons.inj same).1).ge
      obtain ⟨⟨count, found⟩, behind, zeros⟩ := cut_frame own.symm reaches
      rw [requested_cons_of_text (nonempty text List.mem_cons_self)
        (found ▸ readSocket_padded message count)] at same
      have nonempty := fun other member => nonempty other (List.mem_cons_of_mem _ member)
      have messages := fun other member => messages other (List.mem_cons_of_mem _ member)
      obtain ⟨padding, others, rfl, fills, frames, more⟩ := cut_padding messages nonempty
        (zeros ▸ rest) (fun other member => read other (List.mem_cons_of_mem _ member))
        (List.cons.inj same).2
      refine .cons reaches ?_ (inductionHypothesis messages nonempty ⟨frames, ?_⟩ more ?_)
      · rw [fills, ← zeros, ← List.length_append, ← own, length_frame message]
      · exact fun chunk member =>
          delivered.bounded chunk (List.mem_cons_of_mem _ (List.mem_append_right _ member))
      · exact fun chunk member =>
          read chunk (List.mem_cons_of_mem _ (List.mem_append_right _ member))

/-! ### The requests of a connection -/

/-- A call that finds no text does nothing. -/
theorem executeTaskOnServer_nil (rand : Rand) : executeTaskOnServer rand [] = pure () := rfl

/-- What the thread of a connection does depends only on the calls that find a text. -/
theorem threadTask_eq_requested (rand : Rand) (chunks : List Text) :
    threadTask rand chunks = (requested chunks).forM (executeTaskOnServer rand) := by
  induction chunks with
  | nil => rfl
  | cons chunk chunks inductionHypothesis =>
    have split : threadTask rand (chunk :: chunks) =
        executeTaskOnServer rand (readSocket chunk) >>= fun _ => threadTask rand chunks := rfl
    by_cases empty : readSocket chunk = []
    · rw [split, empty, executeTaskOnServer_nil, requested_cons_of_empty empty]
      exact inductionHypothesis
    · rw [split, inductionHypothesis, requested_cons_of_text empty rfl]
      rfl

/-- The texts are handled one call each, as they were sent, if and only if every read returns a
whole frame. Without the calls that find no text, if and only if each text is returned by one
read that begins with it, and no read goes on from a frame to the next. -/
theorem handled_eq_iff {texts chunks : List Text} (messages : ∀ text ∈ texts, IsMessage text)
    (delivered : Delivered texts chunks) :
    (handled chunks = texts ↔ ∀ chunk ∈ chunks, chunk.length = MSG_BUFFER_SIZE) ∧
      ((∀ text ∈ texts, text ≠ []) → (requested chunks = texts ↔ CutBehindTexts texts chunks)) := by
  refine ⟨⟨fun same => ?_, handled_of_whole messages delivered.stream⟩, fun nonempty =>
    ⟨cut_of_requested messages nonempty delivered,
      requested_of_cut messages nonempty delivered.stream⟩⟩
  refine whole_of_length_eq messages delivered ?_
  rw [← same, handled, List.length_map]

/-- The request for the products on offer. -/
def viewRequest : Text := "[VIEW_PRODUCTS],[BUYER],".toList

theorem isMessage_viewRequest : IsMessage viewRequest := ⟨by decide, by decide⟩

/-- The rest of its frame. -/
def viewPadding : Text := List.replicate (MSG_BUFFER_SIZE - viewRequest.length) nul

theorem length_viewPadding : viewRequest.length + viewPadding.length = MSG_BUFFER_SIZE := by
  rw [viewPadding, List.length_replicate]
  decide

/-- Its frame, read in two pieces of which the first one is the text. -/
def cutBehindView : List Text := [viewRequest, viewPadding]

theorem delivered_cutBehindView : Delivered [viewRequest] cutBehindView := by
  have length := length_viewPadding
  have text : viewRequest.length = 24 := by decide
  refine ⟨by simp [cutBehindView, viewPadding, frame], fun chunk member => ?_⟩
  simp only [MSG_BUFFER_SIZE] at length ⊢
  rcases List.mem_cons.mp member with rfl | last
  · omega
  · rw [List.mem_singleton.mp last]
    omega

theorem handled_eq_iff_cutBehindView :
    handled cutBehindView ≠ [viewRequest] ∧ requested cutBehindView = [viewRequest] := by
  have both := handled_eq_iff (List.forall_mem_singleton.mpr isMessage_viewRequest)
    delivered_cutBehindView
  constructor
  · intro same
    exact absurd (both.1.mp same viewRequest List.mem_cons_self) (by decide)
  · refine (both.2 (List.forall_mem_singleton.mpr (by decide))).mpr ?_
    have fills : viewRequest.length + [viewPadding].flatten.length = MSG_BUFFER_SIZE := by
      rw [List.flatten_singleton, length_viewPadding]
    exact .cons Nat.le.refl fills .nil

/-- Its frame, read in two pieces of which the first one has eight bytes. -/
def cutView : List Text := ["[VIEW_PR".toList, "ODUCTS],[BUYER],".toList ++ viewPadding]

theorem delivered_cutView : Delivered [viewRequest] cutView := by
  have length := length_viewPadding
  have text : viewRequest.length = 24 := by decide
  have split : viewRequest = "[VIEW_PR".toList ++ "ODUCTS],[BUYER],".toList := by decide
  refine ⟨?_, fun chunk member => ?_⟩
  · rw [cutView, List.flatten_cons, List.flatten_singleton, ← List.append_assoc, ← split]
    simp [viewPadding, frame]
  · simp only [MSG_BUFFER_SIZE] at length ⊢
    rcases List.mem_cons.mp member with rfl | last
    · decide
    · rw [List.mem_singleton.mp last, List.length_append]
      have rest : "ODUCTS],[BUYER],".toList.length = 16 := by decide
      omega

/-- Two requests are handled, and neither of them was sent. -/
theorem cutView_not_handled :
    Delivered [viewRequest] cutView ∧
      handled cutView = ["[VIEW_PR".toList, "ODUCTS],[BUYER],".toList] ∧
      handled cutView ≠ [viewRequest] ∧ requested cutView ≠ [viewRequest] := by
  have found : handled cutView = ["[VIEW_PR".toList, "ODUCTS],[BUYER],".toList] := by
    rw [handled, cutView, List.map_cons, List.map_singleton, viewPadding]
    rw [readSocket_append (by decide), readSocket_zeros, List.append_nil]
    congr 1
  refine ⟨delivered_cutView, found, fun same => ?_, fun same => ?_⟩
  · rw [found] at same
    exact absurd (congrArg List.length same) (by decide)
  · rw [requested, found] at same
    exact absurd same (by decide)

end OnlineStore
