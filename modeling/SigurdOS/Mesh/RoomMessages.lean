import SigurdOS.Mesh.PendingOperations

namespace SigurdOS.Mesh

open Bytes Utils Utf8Text

section Cursor

/-- The C library's `strnlen`, `none` where it reads past the data. -/
def strnlen (data : List UInt8) : Nat → Nat → Option Nat
  | _, 0 => some 0
  | start, limit + 1 => do
    let byte ← data[start]?
    if byte = 0 then some 0 else (strnlen data (start + 1) limit).map (· + 1)

/-- The characters that a bounded copy takes from the data, `none` where it reads past them. -/
def readString (data : List UInt8) : Nat → Nat → Option (List UInt8)
  | _, 0 => some []
  | start, limit + 1 => do
    let byte ← data[start]?
    if byte = 0 then some [] else (readString data (start + 1) limit).map (byte :: ·)

/-- The loop with its 8-bit cursor, `none` where it reads past the payload or does not end within the fuel. -/
def roomLoop (pubKey : FixedBytes 32) (channelName data : List UInt8) (rtc : Nat → UInt32) :
    Nat → UInt8 → List RoomMsgFetchEntry → Option (List RoomMsgFetchEntry)
  | 0, _, _ => none
  | fuel + 1, pos, fetched =>
    let len := UInt8.ofNat data.length
    if pos.toNat + 2 < len.toNat ∧ fetched.length < maxRoomMsgFetch then do
      let sender := pos
      let slen ← strnlen data sender.toNat (len.toNat - pos.toNat)
      if slen = 0 ∨ slen ≥ len.toNat - pos.toNat then some fetched
      else
        let pos := pos + UInt8.ofNat (slen + 1)
        if pos ≥ len then some fetched
        else do
          let text := pos
          let tlen ← strnlen data text.toNat (len.toNat - pos.toNat)
          if tlen = 0 ∨ tlen ≥ len.toNat - pos.toNat then some fetched
          else do
            let pos := pos + UInt8.ofNat (tlen + 1)
            let senderChars ← readString data sender.toNat 31
            let textChars ← readString data text.toNat 159
            let entry := ⟨senderChars, textChars.take (utf8Scan textChars.length textChars), rtc fetched.length,
              channelName.take 31, pubKey⟩
            roomLoop pubKey channelName data rtc fuel pos (fetched ++ [entry])
    else some fetched

/-- The function on the payload as it arrives, with the chat messages that it queues. -/
def roomMsgResponse (runtime : MeshRuntime) (pubKey : FixedBytes 32) (channelName data : List UInt8)
    (rtc : Nat → UInt32) : Option (List ResponsePush × MeshRuntime) := do
  let fetched ← roomLoop pubKey channelName data rtc (data.length + 1) 0 runtime.roomFetched
  some ((fetched.drop runtime.roomFetched.length).map fun entry => .roomMessage entry.sender entry.channel entry.text,
    { runtime with roomFetched := fetched })

variable {data : List UInt8} {start limit : Nat}

theorem strnlen_eq (inside : start + limit ≤ data.length) :
    strnlen data start limit = some (terminated ((data.drop start).take limit)).length := by
  induction limit generalizing start with
  | zero => simp [strnlen, terminated]
  | succ limit ih =>
    have within : start < data.length := by omega
    rw [strnlen, List.getElem?_eq_getElem within, List.drop_eq_getElem_cons within, List.take_succ_cons,
      ih (by omega)]
    by_cases zero : data[start] = 0
    · simp [zero, terminated]
    · simp [zero, terminated]

theorem terminated_cons {byte : UInt8} (nonzero : byte ≠ 0) (rest : List UInt8) :
    terminated (byte :: rest) = byte :: terminated rest := by
  simp [terminated, nonzero]

theorem readString_eq (inside : start + (terminated (data.drop start)).length < data.length) :
    readString data start limit = some ((terminated (data.drop start)).take limit) := by
  induction limit generalizing start with
  | zero => simp [readString]
  | succ limit ih =>
    have within : start < data.length := by omega
    rw [List.drop_eq_getElem_cons within] at inside ⊢
    rw [readString, List.getElem?_eq_getElem within]
    by_cases zero : data[start] = 0
    · simp [zero, terminated]
    · have more := terminated_cons zero (data.drop (start + 1))
      rw [more, List.length_cons] at inside
      rw [more, List.take_succ_cons]
      simp [zero, ih (show start + 1 + (terminated (data.drop (start + 1))).length < data.length by omega)]

theorem copied_text {text : List UInt8} (nonzero : ∀ byte ∈ text, byte ≠ 0) :
    (text.take 159).take (utf8Scan (text.take 159).length (text.take 159)) =
    utf8CopyTruncateN 160 text text.length := by
  have kept : ∀ byte ∈ text.take 159, byte ≠ 0 := fun byte member => nonzero byte (List.mem_of_mem_take member)
  have limited : text.take (min text.length (160 - 1)) = text.take 159 := by
    rw [List.take_eq_take_iff]
    omega
  have same : utf8TruncateBytes text (min text.length (160 - 1)) = utf8Scan (text.take 159).length (text.take 159) := by
    rw [utf8TruncateBytes, limited, terminated_of_nonzero kept]
  have bound := utf8TruncateBytes_le_max text (min text.length (160 - 1))
  rw [utf8CopyTruncateN, same, List.take_take]
  rw [same] at bound
  rw [Nat.min_eq_left (by omega)]

theorem strnlen_rest {len : Nat} (inside : start ≤ data.length) (whole : len = data.length) :
    strnlen data start (len - start) = some (terminated (data.drop start)).length := by
  rw [whole, strnlen_eq (by omega), List.take_of_length_le (by rw [List.length_drop])]

theorem toNat_advance {pos : UInt8} {count : Nat} (small : pos.toNat + count < 256) :
    (pos + UInt8.ofNat count).toNat = pos.toNat + count := by
  rw [UInt8.toNat_add, UInt8.toNat_ofNat_of_lt' (by simp only [UInt8.size]; omega), Nat.mod_eq_of_lt small]

section Entries

variable (pubKey : FixedBytes 32) (channelName : List UInt8) (rtc : Nat → UInt32) {fetched more : Nat}

theorem roomEntries_done (done : data.length ≤ 2 ∨ maxRoomMsgFetch ≤ fetched) :
    MeshRuntime.roomEntries pubKey channelName rtc more fetched data = [] := by
  cases more with
  | zero => rfl
  | succ more => rw [MeshRuntime.roomEntries, if_pos done]

theorem roomEntries_step (goes : ¬ (data.length ≤ 2 ∨ maxRoomMsgFetch ≤ fetched)) :
    MeshRuntime.roomEntries pubKey channelName rtc (more + 1) fetched data =
      if (terminated data).length = 0 ∨ data.length ≤ (terminated data).length then []
      else
        let rest := data.drop ((terminated data).length + 1)
        if (terminated rest).length = 0 ∨ rest.length ≤ (terminated rest).length then []
        else
          ⟨(terminated data).take 31, utf8CopyTruncateN 160 (terminated rest) (terminated rest).length, rtc fetched,
              channelName.take 31, pubKey⟩ ::
            MeshRuntime.roomEntries pubKey channelName rtc more (fetched + 1)
              (rest.drop ((terminated rest).length + 1)) := by
  rw [MeshRuntime.roomEntries, if_neg goes]

end Entries

theorem roomLoop_eq (pubKey : FixedBytes 32) (channelName : List UInt8) (rtc : Nat → UInt32)
    (payload : data.length ≤ 251) (fuel more : Nat) (pos : UInt8) (fetched : List RoomMsgFetchEntry)
    (inside : pos.toNat ≤ data.length) (enough : data.length - pos.toNat < fuel)
    (enoughToo : data.length - pos.toNat ≤ more) : roomLoop pubKey channelName data rtc fuel pos fetched =
      some (fetched ++ MeshRuntime.roomEntries pubKey channelName rtc more fetched.length (data.drop pos.toNat)) := by
  induction fuel generalizing more pos fetched with
  | zero => exact absurd enough (Nat.not_lt_zero _)
  | succ fuel ih =>
    have len : (UInt8.ofNat data.length).toNat = data.length :=
      UInt8.toNat_ofNat_of_lt' (by simp only [UInt8.size]; omega)
    have rest : (data.drop pos.toNat).length = data.length - pos.toNat := List.length_drop
    simp only [roomLoop, len]
    by_cases goes : pos.toNat + 2 < data.length ∧ fetched.length < maxRoomMsgFetch
    · obtain ⟨more, rfl⟩ : ∃ fewer, more = fewer + 1 := ⟨more - 1, by omega⟩
      rw [if_pos goes, strnlen_rest inside rfl, roomEntries_step _ _ _ (by omega), rest]
      simp only [Option.bind_eq_bind, Option.bind_some, ge_iff_le]
      generalize sender_eq : terminated (data.drop pos.toNat) = sender
      by_cases stop : sender.length = 0 ∨ data.length - pos.toNat ≤ sender.length
      · simp only [stop, if_true, List.append_nil]
      have next := @toNat_advance pos (sender.length + 1) (by omega)
      generalize pos + UInt8.ofNat (sender.length + 1) = textPos at next
      have nextInside : textPos.toNat ≤ data.length := by omega
      simp only [stop, if_false, List.drop_drop, ← next, List.length_drop]
      by_cases ended : UInt8.ofNat data.length ≤ textPos
      · have last : data.length = textPos.toNat := by
          rw [UInt8.le_iff_toNat_le, len] at ended
          omega
        have nothing : data.drop textPos.toNat = [] := List.drop_eq_nil_of_le (by omega)
        simp only [ended, if_true, nothing, terminated, List.takeWhile_nil, List.length_nil, true_or, List.append_nil]
      simp only [ended, if_false, strnlen_rest nextInside rfl, Option.bind_some]
      generalize text_eq : terminated (data.drop textPos.toNat) = text
      by_cases stopText : text.length = 0 ∨ data.length - textPos.toNat ≤ text.length
      · simp only [stopText, if_true, List.append_nil]
      have after := @toNat_advance textPos (text.length + 1) (by omega)
      have senderRead : readString data pos.toNat 31 = some (sender.take 31) := by
        rw [readString_eq (by rw [sender_eq]; omega), sender_eq]
      have textRead : readString data textPos.toNat 159 = some (text.take 159) := by
        rw [readString_eq (by rw [text_eq]; omega), text_eq]
      have copied := @copied_text text (by rw [← text_eq]; exact terminated_nonzero)
      simp only [stopText, if_false, senderRead, textRead, Option.bind_some, copied]
      rw [ih more _ _ (by omega) (by omega) (by omega), after, List.length_append, List.length_singleton,
        List.append_assoc, List.singleton_append]
    · rw [if_neg goes, roomEntries_done _ _ _ (by rw [rest]; omega), List.append_nil]

theorem roomMsgResponse_eq (runtime : MeshRuntime) (pubKey : FixedBytes 32) (channelName : List UInt8)
    (rtc : Nat → UInt32) (payload : data.length ≤ 251) : roomMsgResponse runtime pubKey channelName data rtc =
      some (runtime.parseRoomMsgResponse pubKey channelName data rtc) := by
  have start : (0 : UInt8).toNat = 0 := rfl
  have loop := roomLoop_eq pubKey channelName rtc payload (data.length + 1) data.length 0 runtime.roomFetched
    (Nat.zero_le _) (by omega) (by omega)
  rw [start, List.drop_zero] at loop
  simp only [roomMsgResponse, loop, Option.bind_eq_bind, Option.bind_some, List.drop_left,
    MeshRuntime.parseRoomMsgResponse]

end Cursor

structure RoomPair where
  sender : List UInt8
  text : List UInt8
  sender_ne : sender ≠ []
  text_ne : text ≠ []
  sender_nonzero : ∀ byte ∈ sender, byte ≠ 0
  text_nonzero : ∀ byte ∈ text, byte ≠ 0

namespace RoomPair

def bytes (pair : RoomPair) : List UInt8 := pair.sender ++ 0 :: (pair.text ++ [0])

def NoneBegins (data : List UInt8) : Prop := ∀ (pair : RoomPair) (rest : List UInt8), data ≠ pair.bytes ++ rest

/-- A text cut to its field at a character boundary: the longest well-formed prefix that fits. -/
structure FieldText (text kept : List UInt8) : Prop where
  front : kept <+: text
  fits : kept.length ≤ 159
  isUtf8 : IsUtf8 kept
  longest : ∀ other, other <+: text → other.length ≤ 159 → IsUtf8 other → other.length ≤ kept.length

structure Fetched (pubKey : FixedBytes 32) (channelName : List UInt8) (pair : RoomPair) (entry : RoomMsgFetchEntry) :
    Prop where
  sender : entry.sender = pair.sender.take 31
  text : FieldText pair.text entry.text
  channel : entry.channel = channelName.take 31
  contactKey : entry.contactKey = pubKey

section Grammar

variable {data rest : List UInt8}

theorem terminated_split {raw : List UInt8} (more : (terminated raw).length < raw.length) :
    raw = terminated raw ++ 0 :: raw.drop ((terminated raw).length + 1) := by
  induction raw with
  | nil => simp at more
  | cons byte raw ih =>
    by_cases zero : byte = 0
    · simp [zero, terminated]
    · rw [terminated_cons zero, List.length_cons, List.length_cons] at more
      rw [terminated_cons zero, List.length_cons, List.drop_succ_cons, List.cons_append, ← ih (by omega)]

theorem append_bytes (pair : RoomPair) (rest : List UInt8) :
    pair.bytes ++ rest = pair.sender ++ 0 :: (pair.text ++ 0 :: rest) := by
  simp [bytes]

theorem bytes_injective {pair other : RoomPair} {later : List UInt8}
    (same : pair.bytes ++ rest = other.bytes ++ later) : pair = other ∧ rest = later := by
  rw [append_bytes, append_bytes] at same
  have senders := congrArg terminated same
  rw [terminated_append_zero pair.sender_nonzero, terminated_append_zero other.sender_nonzero] at senders
  rw [senders, List.append_cancel_left_eq, List.cons.injEq] at same
  have texts := congrArg terminated same.2
  rw [terminated_append_zero pair.text_nonzero, terminated_append_zero other.text_nonzero] at texts
  rw [texts, List.append_cancel_left_eq, List.cons.injEq] at same
  refine ⟨?_, same.2.2⟩
  cases pair
  cases other
  simp only [mk.injEq]
  exact ⟨senders, texts⟩

theorem exists_longest (data : List UInt8) : ∃ (pairs : List RoomPair) (rest : List UInt8),
    data = pairs.flatMap bytes ++ rest ∧ NoneBegins rest := by
  induction length_eq : data.length using Nat.strongRecOn generalizing data with
  | ind count ih =>
    by_cases none : NoneBegins data
    · exact ⟨[], data, rfl, none⟩
    · simp only [NoneBegins, ne_eq, not_forall, not_not] at none
      obtain ⟨pair, rest, rfl⟩ := none
      have shorter : rest.length < count := by
        rw [← length_eq, append_bytes]
        simp only [List.length_append, List.length_cons]
        omega
      obtain ⟨pairs, later, rfl, done⟩ := ih _ shorter rest rfl
      exact ⟨pair :: pairs, later, by rw [List.flatMap_cons, List.append_assoc], done⟩

theorem prefix_longest {pairs more : List RoomPair} {later : List UInt8} (none : NoneBegins rest)
    (same : more.flatMap bytes ++ later = pairs.flatMap bytes ++ rest) : more <+: pairs := by
  induction more generalizing pairs with
  | nil => exact List.nil_prefix
  | cons pair more ih =>
    rw [List.flatMap_cons, List.append_assoc] at same
    cases pairs with
    | nil => exact absurd same.symm (none pair _)
    | cons other pairs =>
      rw [List.flatMap_cons, List.append_assoc] at same
      obtain ⟨rfl, others⟩ := bytes_injective same
      exact (List.prefix_cons_inj pair).2 (ih others)

end Grammar

section Fetching

variable (pubKey : FixedBytes 32) (channelName : List UInt8) (rtc : Nat → UInt32)

theorem fieldText (pair : RoomPair) : FieldText pair.text (utf8CopyTruncateN 160 pair.text pair.text.length) where
  front := List.take_prefix _ _
  fits := by
    have limit := utf8TruncateBytes_le_max pair.text (min pair.text.length (160 - 1))
    rw [utf8CopyTruncateN, List.length_take]
    omega
  isUtf8 := utf8TruncateBytes_isUtf8 _ _
  longest other front fits text := by
    have within := front.length_le
    rw [List.prefix_iff_eq_take.1 front] at text
    have kept := @utf8TruncateBytes_longest pair.text (min pair.text.length (160 - 1)) other.length (by omega)
      (by rw [terminated_of_nonzero pair.text_nonzero]; exact within)
      (by rw [terminated_of_nonzero pair.text_nonzero]; exact text)
    rw [utf8CopyTruncateN, length_take_utf8TruncateBytes]
    exact kept

theorem roomEntries_none {data : List UInt8} (none : NoneBegins data) (more fetched : Nat) :
    MeshRuntime.roomEntries pubKey channelName rtc more fetched data = [] := by
  by_cases done : data.length ≤ 2 ∨ maxRoomMsgFetch ≤ fetched
  · exact roomEntries_done _ _ _ done
  cases more with
  | zero => rfl
  | succ more =>
    rw [roomEntries_step _ _ _ done]
    by_cases noSender : (terminated data).length = 0 ∨ data.length ≤ (terminated data).length
    · rw [if_pos noSender]
    rw [if_neg noSender]
    dsimp only
    have split := @terminated_split data (by omega)
    generalize data.drop ((terminated data).length + 1) = rest at split ⊢
    by_cases noText : (terminated rest).length = 0 ∨ rest.length ≤ (terminated rest).length
    · rw [if_pos noText]
    -- Both strings are there, so a pair begins the data.
    have splitText := @terminated_split rest (by omega)
    have sender_ne : terminated data ≠ [] := fun empty => noSender (Or.inl (List.length_eq_zero_iff.2 empty))
    have text_ne : terminated rest ≠ [] := fun empty => noText (Or.inl (List.length_eq_zero_iff.2 empty))
    refine absurd ?_ (none ⟨_, _, sender_ne, text_ne, terminated_nonzero, terminated_nonzero⟩
      (rest.drop ((terminated rest).length + 1)))
    rw [append_bytes]
    dsimp only
    rw [← splitText]
    exact split

theorem roomEntries_pairs {rest : List UInt8} (none : NoneBegins rest) (pairs : List RoomPair) (more fetched : Nat)
    (enough : (pairs.flatMap bytes ++ rest).length ≤ more) :
    List.Forall₂ (Fetched pubKey channelName) (pairs.take (maxRoomMsgFetch - fetched))
      (MeshRuntime.roomEntries pubKey channelName rtc more fetched (pairs.flatMap bytes ++ rest)) := by
  induction pairs generalizing more fetched with
  | nil =>
    rw [List.flatMap_nil, List.nil_append, roomEntries_none _ _ _ none, List.take_nil]
    exact .nil
  | cons pair pairs ih =>
    by_cases full : maxRoomMsgFetch ≤ fetched
    · rw [roomEntries_done _ _ _ (Or.inr full), Nat.sub_eq_zero_of_le full, List.take_zero]
      exact .nil
    have senderLength := List.length_pos_iff.2 pair.sender_ne
    have textLength := List.length_pos_iff.2 pair.text_ne
    rw [List.flatMap_cons, List.append_assoc, append_bytes] at enough ⊢
    generalize later : pairs.flatMap bytes ++ rest = data at *
    simp only [List.length_append, List.length_cons] at enough
    obtain ⟨more, rfl⟩ : ∃ fewer, more = fewer + 1 := ⟨more - 1, by omega⟩
    have sender : terminated (pair.sender ++ 0 :: (pair.text ++ 0 :: data)) = pair.sender :=
      terminated_append_zero pair.sender_nonzero _
    have text : terminated (pair.text ++ 0 :: data) = pair.text := terminated_append_zero pair.text_nonzero _
    rw [roomEntries_step _ _ _ (by simp only [List.length_append, List.length_cons]; omega), sender]
    rw [if_neg (by simp only [List.length_append, List.length_cons]; omega)]
    have afterSender : (pair.sender ++ 0 :: (pair.text ++ 0 :: data)).drop (pair.sender.length + 1) =
        pair.text ++ 0 :: data := by simp
    have afterText : (pair.text ++ 0 :: data).drop (pair.text.length + 1) = data := by simp
    rw [afterSender]
    dsimp only
    rw [text, if_neg (by simp only [List.length_append, List.length_cons]; omega), afterText]
    obtain ⟨room, capacity⟩ : ∃ room, maxRoomMsgFetch - fetched = room + 1 := ⟨maxRoomMsgFetch - fetched - 1, by omega⟩
    have next : maxRoomMsgFetch - (fetched + 1) = room := by omega
    rw [capacity, List.take_succ_cons]
    refine .cons ⟨rfl, pair.fieldText, rfl, rfl⟩ ?_
    have others := ih more (fetched + 1) (by omega)
    rwa [next] at others

end Fetching

end RoomPair

/-- A response appends the entries of its longest sequence of complete pairs that there is room for, and queues
    exactly these for the chat. -/
theorem room_messages_parsed (runtime : MeshRuntime) (pubKey : FixedBytes 32) (channelName data : List UInt8)
    (rtc : Nat → UInt32) (payload : data.length ≤ 251) : ∃ (pairs : List RoomPair) (rest : List UInt8)
      (appended : List RoomMsgFetchEntry),
      data = pairs.flatMap RoomPair.bytes ++ rest ∧
      (∀ (more : List RoomPair) (later : List UInt8), data = more.flatMap RoomPair.bytes ++ later → more <+: pairs) ∧
      List.Forall₂ (RoomPair.Fetched pubKey channelName)
        (pairs.take (maxRoomMsgFetch - runtime.roomFetched.length)) appended ∧
      roomMsgResponse runtime pubKey channelName data rtc =
        some (appended.map fun entry => .roomMessage entry.sender entry.channel entry.text,
          { runtime with roomFetched := runtime.roomFetched ++ appended }) := by
  obtain ⟨pairs, rest, whole, none⟩ := RoomPair.exists_longest data
  refine ⟨pairs, rest, _, whole, ?_, ?_, roomMsgResponse_eq runtime pubKey channelName rtc payload⟩
  · intro more later split
    exact RoomPair.prefix_longest none (split.symm.trans whole)
  · have entries := RoomPair.roomEntries_pairs pubKey channelName rtc none pairs data.length
      runtime.roomFetched.length (by rw [← whole])
    rwa [← whole] at entries

/-- Two pairs, and a third that lacks its last terminator. -/
def twoMessages : List UInt8 := [65, 0, 104, 105, 0, 66, 0, 33, 0, 67, 0, 63]

theorem twoMessages_parsed : ∃ (pairs : List RoomPair) (rest : List UInt8) (appended : List RoomMsgFetchEntry),
    twoMessages = pairs.flatMap RoomPair.bytes ++ rest ∧
    (∀ (more : List RoomPair) (later : List UInt8),
      twoMessages = more.flatMap RoomPair.bytes ++ later → more <+: pairs) ∧
    List.Forall₂ (RoomPair.Fetched (.ofList 32 []) [114])
      (pairs.take (maxRoomMsgFetch - MeshRuntime.init.roomFetched.length)) appended ∧
    roomMsgResponse .init (.ofList 32 []) [114] twoMessages (fun _ => 7) =
      some (appended.map fun entry => .roomMessage entry.sender entry.channel entry.text,
        { MeshRuntime.init with roomFetched := MeshRuntime.init.roomFetched ++ appended }) :=
  room_messages_parsed .init (.ofList 32 []) [114] twoMessages (fun _ => 7) (by decide)

end SigurdOS.Mesh
