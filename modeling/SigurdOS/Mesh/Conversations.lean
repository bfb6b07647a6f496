import SigurdOS.Library.Runs
import SigurdOS.Mesh.ContactMutations

namespace SigurdOS.Mesh

open Bytes

section Keys

def dmText : List UInt8 := [68, 77, 58, 32]

/-- The prefix and the name, as far as a buffer of `size` bytes with its terminator holds them. -/
def formatDmConversation (size : Nat) (name : List UInt8) : List UInt8 := (dmText ++ name).take (size - 1)

def storedConversationSize : Nat := 32

def meshMessageChannelSize : Nat := 69

def channelNameCap : Nat := 69

def maxConversations : Nat := 24

def maxQueued : Nat := 64

end Keys

/-- How a message names its peer: by the id of the contact, or by another text. -/
inductive DmForm where
  | id
  | text (label : List UInt8)
  deriving DecidableEq

/-- A message with its peer, whom the device does not record, and the conversation that it is filed under. -/
structure DirectMessage where
  peer : FixedBytes 32
  form : DmForm
  conversation : List UInt8
  deriving DecidableEq

/-- The rows of the chat screen, the queue to it and the stored messages. The messages that the screen has shown are
    kept over the reboots. -/
structure ChatDevice where
  rows : List (List UInt8)
  queue : List DirectMessage
  stored : List DirectMessage
  shown : List DirectMessage

/-- What reaches the chat: messages from the contact at a place of the table, messages sent from a row of the screen
    and to a contact by a companion, and reboots. The store keeps what it has room for. -/
inductive ChatEvent where
  | receive (contact : Nat) (txtType : UInt8) (stores : Bool)
  | poll
  | refresh (channels : List (List UInt8))
  | openDm (channels : List (List UInt8)) (reference : List UInt8)
  | send (row : Nat) (delivered stores : Bool)
  | companionSend (contact : Nat) (delivered stores : Bool)
  | reboot (channels : List (List UInt8)) (keeps : DirectMessage → Bool)

section Chat

def companionMessageShouldPresentInChat (txtType : UInt8) : Bool := txtType == 0 || txtType == 2

namespace ChatDevice

def keep (device : ChatDevice) (stores : Bool) (message : DirectMessage) : ChatDevice :=
  if stores then { device with stored := device.stored ++ [message] } else device

def push (device : ChatDevice) (message : DirectMessage) : ChatDevice :=
  if device.queue.length = maxQueued then device else { device with queue := device.queue ++ [message] }

def rowFor (rows : List (List UInt8)) (conversation : List UInt8) : Option (List UInt8 × List (List UInt8)) :=
  if conversation.isEmpty then none
  else if rows.contains conversation then some (conversation, rows)
  else if rows.length < maxConversations then
    let row := conversation.take (channelNameCap - 1)
    some (row, rows ++ [row])
  else none

/-- `chat_screen_add_msg_at` for a live message, and the body of `chat_load_stored_messages` for a stored one. -/
def showMessage (device : ChatDevice) (message : DirectMessage) : ChatDevice :=
  match rowFor device.rows message.conversation with
  | none => device
  | some (row, rows) => { device with rows, shown := device.shown ++ [{ message with conversation := row }] }

def exportedChannels (channels : List (List UInt8)) : List (List UInt8) :=
  if channels.isEmpty then [[35, 103, 101, 110, 101, 114, 97, 108]] else channels

/-- The channels come first, and the rows of messages that were there before follow while there is room. -/
def refreshChannels (device : ChatDevice) (channels : List (List UInt8)) : ChatDevice :=
  let exported := exportedChannels channels
  let messages := (device.rows.diff exported).filter fun row => row.take 3 == dmText.take 3
  { device with rows := exported ++ messages.take (maxConversations - exported.length) }

def storedMessage (contact : StoredContact) : DirectMessage :=
  ⟨contact.pubKey, .text (contact.name.chars.take (storedConversationSize - 1 - dmText.length)),
    formatDmConversation storedConversationSize contact.name.chars⟩

/-- `mesh_v2_queue_push`: the message is stored first, and presented whether that succeeded or not. -/
def receive (device : ChatDevice) (contact : StoredContact) (txtType : UInt8) (stores : Bool) : ChatDevice :=
  let stored := device.keep stores (storedMessage contact)
  if companionMessageShouldPresentInChat txtType then
    stored.push ⟨contact.pubKey, .id, (dmText ++ contactIdFromPubKey contact.pubKey).take (meshMessageChannelSize - 1)⟩
  else stored

def poll (device : ChatDevice) : ChatDevice :=
  (device.queue.take 4).foldl showMessage { device with queue := device.queue.drop 4 }

def openDm (device : ChatDevice) (channels : List (List UInt8)) (reference : List UInt8) : ChatDevice :=
  if reference.isEmpty then device
  else
    let fresh := device.refreshChannels channels
    let row := dmText ++ reference
    if channelNameCap ≤ row.length ∨ row ∈ fresh.rows ∨ maxConversations ≤ fresh.rows.length then fresh
    else { fresh with rows := fresh.rows ++ [row] }

/-- `do_send` from a row of messages. A text that does not reach a contact is shown as failed. -/
def send (lookup : ContactLookup) (contacts : List StoredContact) (device : ChatDevice) (row : Nat)
    (delivered stores : Bool) : ChatDevice :=
  match device.rows[row]? with
  | none => device
  | some conversation =>
    if conversation.take 4 ≠ dmText then device
    else
      let dest := conversation.drop 4
      match resolveContact lookup contacts dest with
      | none => device
      | some (_, contact) =>
        if delivered then
          let form := if dest = contactIdFromPubKey contact.pubKey then .id else .text dest
          let stored := device.keep stores (storedMessage contact)
          { stored with shown := stored.shown ++ [⟨contact.pubKey, form, conversation⟩] }
        else device

/-- `sendTextByPubKeyPrefix` to the contact that its prefix finds. -/
def companionSend (device : ChatDevice) (contact : StoredContact) (delivered stores : Bool) : ChatDevice :=
  if delivered then
    let message := storedMessage contact
    (device.keep stores message).push
      { message with conversation := message.conversation.take (meshMessageChannelSize - 1) }
  else device

def reboot (device : ChatDevice) (channels : List (List UInt8)) (keeps : DirectMessage → Bool) : ChatDevice :=
  let stored := device.stored.filter keeps
  stored.foldl showMessage { device with rows := exportedChannels channels, queue := [], stored }

def step (lookup : ContactLookup) (contacts : List StoredContact) (device : ChatDevice) : ChatEvent → ChatDevice
  | .receive place txtType stores =>
    match contacts[place]? with
    | none => device
    | some contact => device.receive contact txtType stores
  | .poll => device.poll
  | .refresh channels => device.refreshChannels channels
  | .openDm channels reference => device.openDm channels reference
  | .send row delivered stores => device.send lookup contacts row delivered stores
  | .companionSend place delivered stores =>
    match contacts[place]? with
    | none => device
    | some contact => device.companionSend contact delivered stores
  | .reboot channels keeps => device.reboot channels keeps

def start : ChatDevice := ⟨[], [], [], []⟩

end ChatDevice

end Chat

/-- Two messages that were shown are in one conversation exactly if they have one peer. -/
def ConversationsFaithful (device : ChatDevice) : Prop :=
  ∀ message ∈ device.shown, ∀ other ∈ device.shown,
    message.conversation = other.conversation ↔ message.peer = other.peer

def Alike (message other : DirectMessage) : Prop :=
  (message.peer = other.peer → message.form = other.form) ∧
    (message.peer ≠ other.peer → message.form = other.form → message.form = .id)

section Conditions

/-- The part of a contact's name that the conversation of a stored message has room for. -/
def nameText (contact : StoredContact) : List UInt8 :=
  contact.name.chars.take (storedConversationSize - 1 - dmText.length)

/-- The messages that were shown, and those that wait to be. -/
def ChatDevice.presented (device : ChatDevice) : List DirectMessage := device.shown ++ device.queue

def NamedById (messages : List DirectMessage) (contact : StoredContact) : Prop :=
  ∃ message ∈ messages, message.peer = contact.pubKey ∧ message.form = .id

def NamedByText (messages : List DirectMessage) (contact : StoredContact) : Prop :=
  ∃ message ∈ messages, message.peer = contact.pubKey ∧ message.form ≠ .id

def Namesakes (contact other : StoredContact) : Prop :=
  contact.pubKey ≠ other.pubKey ∧ nameText contact = nameText other

/-- No message has come in under the contact's id, nor one of a namesake under the name. -/
def NameFree (contacts : List StoredContact) (messages : List DirectMessage) (contact : StoredContact) : Prop :=
  ¬NamedById messages contact ∧ ∀ other ∈ contacts, Namesakes contact other → ¬NamedByText messages other

def Reloads (device : ChatDevice) (keeps : DirectMessage → Bool) (contact : StoredContact) : Prop :=
  ∃ message ∈ device.stored, keeps message = true ∧ message.peer = contact.pubKey

/-- What is received live or sent from the row of an id is of a contact that has no messages under its name.
    What a companion sends, a reboot reloads or is sent from the row of a name is of one that has none under
    its id, and of whose namesakes none has messages under the name. -/
def KeepsForm (lookup : ContactLookup) (contacts : List StoredContact) (device : ChatDevice) : ChatEvent → Prop
  | .receive place txtType _ => companionMessageShouldPresentInChat txtType = true →
      ∀ contact ∈ contacts[place]?, ¬NamedByText device.presented contact
  | .companionSend place delivered _ => delivered = true →
      ∀ contact ∈ contacts[place]?, NameFree contacts device.presented contact
  | .send row delivered _ => delivered = true → ∀ conversation ∈ device.rows[row]?, conversation.take 4 = dmText →
      ∀ found ∈ resolveContact lookup contacts (conversation.drop 4),
        if conversation.drop 4 = contactIdFromPubKey found.2.pubKey then ¬NamedByText device.presented found.2
        else conversation.drop 4 = nameText found.2 ∧ NameFree contacts device.presented found.2
  | .reboot _ keeps => ∀ contact ∈ contacts, Reloads device keeps contact → NameFree contacts device.shown contact ∧
      ∀ other ∈ contacts, Namesakes contact other → ¬Reloads device keeps other
  | .poll | .refresh _ | .openDm _ _ => True

section Checks

variable (lookup : ContactLookup) (contacts : List StoredContact) (messages : List DirectMessage)
  (device : ChatDevice)

instance (contact : StoredContact) : Decidable (NamedById messages contact) :=
  inferInstanceAs (Decidable (∃ message ∈ messages, message.peer = contact.pubKey ∧ message.form = .id))

instance (contact : StoredContact) : Decidable (NamedByText messages contact) :=
  inferInstanceAs (Decidable (∃ message ∈ messages, message.peer = contact.pubKey ∧ message.form ≠ .id))

instance (contact other : StoredContact) : Decidable (Namesakes contact other) :=
  inferInstanceAs (Decidable (_ ∧ _))

instance (contact : StoredContact) : Decidable (NameFree contacts messages contact) :=
  inferInstanceAs (Decidable (_ ∧ _))

instance (keeps : DirectMessage → Bool) (contact : StoredContact) : Decidable (Reloads device keeps contact) :=
  inferInstanceAs (Decidable (∃ message ∈ device.stored, keeps message = true ∧ message.peer = contact.pubKey))

instance : DecidablePred (KeepsForm lookup contacts device) := fun event =>
  match event with
  | .receive place txtType _ => inferInstanceAs (Decidable (companionMessageShouldPresentInChat txtType = true →
      ∀ contact ∈ contacts[place]?, ¬NamedByText device.presented contact))
  | .companionSend place delivered _ => inferInstanceAs (Decidable (delivered = true →
      ∀ contact ∈ contacts[place]?, NameFree contacts device.presented contact))
  | .send row delivered _ => inferInstanceAs (Decidable (delivered = true →
      ∀ conversation ∈ device.rows[row]?, conversation.take 4 = dmText →
        ∀ found ∈ resolveContact lookup contacts (conversation.drop 4),
          if conversation.drop 4 = contactIdFromPubKey found.2.pubKey then ¬NamedByText device.presented found.2
          else conversation.drop 4 = nameText found.2 ∧ NameFree contacts device.presented found.2))
  | .reboot _ keeps => inferInstanceAs (Decidable (∀ contact ∈ contacts, Reloads device keeps contact →
      NameFree contacts device.shown contact ∧
        ∀ other ∈ contacts, Namesakes contact other → ¬Reloads device keeps other))
  | .poll | .refresh _ | .openDm _ _ => inferInstanceAs (Decidable True)

end Checks

end Conditions

section ContactIds

theorem hexNibble_digit : ∀ nibble < 16, scopeKeyHexNibble (scopeKeyHexDigit nibble) = some nibble := by decide

theorem decodeNibbles_digits (bytes : List UInt8) :
    decodeNibbles (bytes.flatMap fun byte => [scopeKeyHexDigit (byte.toNat / 16), scopeKeyHexDigit (byte.toNat % 16)]) =
      some bytes := by
  induction bytes with
  | nil => rfl
  | cons byte rest ih =>
    have bound := byte.toNat_lt
    rw [List.flatMap_cons, List.cons_append, List.cons_append, List.nil_append, decodeNibbles, ih,
      hexNibble_digit _ (show byte.toNat / 16 < 16 by omega), hexNibble_digit _ (show byte.toNat % 16 < 16 by omega)]
    have whole : byte.toNat / 16 * 16 + byte.toNat % 16 = byte.toNat := by omega
    simp only [whole, UInt8.ofNat_toNat]

theorem length_contactIdFromPubKey (pubKey : FixedBytes 32) : (contactIdFromPubKey pubKey).length = 64 := by
  simp [contactIdFromPubKey, List.length_flatMap, pubKey.length_eq]

theorem contactIdToPubKey_own (pubKey : FixedBytes 32) :
    contactIdToPubKey (contactIdFromPubKey pubKey) = some pubKey := by
  rw [contactIdToPubKey, if_neg (not_not.mpr (length_contactIdFromPubKey pubKey)), contactIdFromPubKey,
    decodeNibbles_digits, Option.map_some, FixedBytes.ofList_bytes]

theorem contactIdFromPubKey_injective {pubKey other : FixedBytes 32}
    (same : contactIdFromPubKey pubKey = contactIdFromPubKey other) : pubKey = other := by
  have decoded := contactIdToPubKey_own pubKey
  rw [same, contactIdToPubKey_own] at decoded
  exact (Option.some.inj decoded).symm

variable {lookup : ContactLookup} {contacts : List StoredContact} {reference : List UInt8} {pubKey : FixedBytes 32}

theorem consider_found (decoded : contactIdToPubKey reference = some pubKey) (candidates : List (StoredContact × Nat))
    (resolver : ContactReferenceResolver)
    (listed : ∀ candidate ∈ candidates, contacts[candidate.2]? = some candidate.1)
    (earlier : ∀ place, resolver.found = some place →
      ∃ contact, contacts[place]? = some contact ∧ contact.pubKey = pubKey) :
    ∀ place, (candidates.foldl (ContactReferenceResolver.consider reference) resolver).found = some place →
      ∃ contact, contacts[place]? = some contact ∧ contact.pubKey = pubKey := by
  induction candidates generalizing resolver with
  | nil => exact earlier
  | cons candidate rest ih =>
    apply ih _ fun later inside => listed later (List.mem_cons_of_mem _ inside)
    intro place found
    rw [ContactReferenceResolver.consider, decoded] at found
    split at found
    · exact earlier place found
    · dsimp only at found
      split at found
      · exact earlier place found
      · next agrees =>
        split at found
        · exact earlier place found
        · cases found
          have same : pubKey = candidate.1.pubKey := by simpa using agrees
          exact ⟨candidate.1, listed candidate List.mem_cons_self, same.symm⟩

theorem resolveContact_id (decoded : contactIdToPubKey reference = some pubKey) {place : Nat} {contact : StoredContact}
    (found : resolveContact lookup contacts reference = some (place, contact)) : contact.pubKey = pubKey := by
  unfold resolveContact at found
  split at found
  · cases found
  · dsimp only at found
    split at found
    · cases found
    · next target resolved =>
      obtain ⟨first, named, there⟩ := Option.bind_eq_some_iff.mp resolved
      have unambiguous : (contacts.zipIdx.foldl (ContactReferenceResolver.consider reference) ⟨none, false⟩).found =
          some first := by
        unfold ContactReferenceResolver.result at named
        split at named
        · cases named
        · exact named
      have listed : ∀ candidate ∈ contacts.zipIdx, contacts[candidate.2]? = some candidate.1 := fun _ inside =>
        List.mem_zipIdx_iff_getElem?.mp inside
      obtain ⟨owner, at_first, same⟩ :=
        consider_found decoded contacts.zipIdx ⟨none, false⟩ listed nofun first unambiguous
      rw [at_first, Option.some.injEq] at there
      rw [← same, there]
      exact (lookup.lookup_found found).2

end ContactIds

/-- The conversation of a message is its form spelled out, and a text is never the id of a contact. -/
def Labelled (message : DirectMessage) : Prop :=
  match message.form with
  | .id => message.conversation = dmText ++ contactIdFromPubKey message.peer
  | .text label => message.conversation = dmText ++ label ∧ ∀ pubKey, label ≠ contactIdFromPubKey pubKey

section Labels

variable {message other : DirectMessage}

theorem Labelled.same_conversation_iff (labelled : Labelled message) (labelled_other : Labelled other) :
    message.conversation = other.conversation ↔
      message.form = other.form ∧ (message.form = .id → message.peer = other.peer) := by
  unfold Labelled at labelled labelled_other
  cases form : message.form with
  | id =>
    rw [form] at labelled
    cases form_other : other.form with
    | id =>
      rw [form_other] at labelled_other
      rw [labelled, labelled_other, List.append_cancel_left_eq]
      constructor
      · intro same
        exact ⟨rfl, fun _ => contactIdFromPubKey_injective same⟩
      · rintro ⟨-, same⟩
        rw [same rfl]
    | text label =>
      rw [form_other] at labelled_other
      rw [labelled, labelled_other.1, List.append_cancel_left_eq]
      constructor
      · intro same
        exact absurd same.symm (labelled_other.2 _)
      · rintro ⟨same, -⟩
        cases same
  | text label =>
    rw [form] at labelled
    cases form_other : other.form with
    | id =>
      rw [form_other] at labelled_other
      rw [labelled.1, labelled_other, List.append_cancel_left_eq]
      constructor
      · intro same
        exact absurd same (labelled.2 _)
      · rintro ⟨same, -⟩
        cases same
    | text label_other =>
      rw [form_other] at labelled_other
      rw [labelled.1, labelled_other.1, List.append_cancel_left_eq, DmForm.text.injEq]
      simp

theorem Labelled.faithful_iff_alike (labelled : Labelled message) (labelled_other : Labelled other) :
    (message.conversation = other.conversation ↔ message.peer = other.peer) ↔ Alike message other := by
  rw [labelled.same_conversation_iff labelled_other, Alike]
  by_cases same : message.peer = other.peer
  · simp [same]
  · simp [same]

theorem Alike.symm (alike : Alike message other) : Alike other message := by
  refine ⟨fun same => (alike.1 same.symm).symm, fun differ same => ?_⟩
  rw [same]
  exact alike.2 (Ne.symm differ) same.symm

theorem storedMessage_labelled (contact : StoredContact) : Labelled (ChatDevice.storedMessage contact) := by
  refine ⟨?_, fun pubKey same => ?_⟩
  · change (dmText ++ contact.name.chars).take 31 = dmText ++ contact.name.chars.take 27
    rw [List.take_append]
    rfl
  · have length := congrArg List.length same
    rw [length_contactIdFromPubKey, List.length_take] at length
    simp only [storedConversationSize, dmText, List.length_cons, List.length_nil] at length
    omega

theorem received_labelled (pubKey : FixedBytes 32) :
    Labelled ⟨pubKey, .id, (dmText ++ contactIdFromPubKey pubKey).take (meshMessageChannelSize - 1)⟩ := by
  apply List.take_of_length_le
  rw [List.length_append, length_contactIdFromPubKey]
  decide

end Labels

def Filed (message : DirectMessage) : Prop :=
  Labelled message ∧ message.conversation.length ≤ channelNameCap - 1

structure ChatSound (device : ChatDevice) : Prop where
  queued : ∀ message ∈ device.queue, Filed message
  stored : ∀ message ∈ device.stored, Filed message
  shown : ∀ message ∈ device.shown, Labelled message

structure ChatAdvances (before after : ChatDevice) : Prop where
  sound : ChatSound after
  kept : before.shown <+: after.shown

section Steps

variable {lookup : ContactLookup} {contacts : List StoredContact} {device : ChatDevice} {message : DirectMessage}

theorem storedMessage_filed (contact : StoredContact) : Filed (ChatDevice.storedMessage contact) := by
  refine ⟨storedMessage_labelled contact, ?_⟩
  have width : (formatDmConversation storedConversationSize contact.name.chars).length ≤ 31 := List.length_take_le _ _
  exact width.trans (by decide)

theorem ChatSound.keep (sound : ChatSound device) (filed : Filed message) (stores : Bool) :
    ChatSound (device.keep stores message) := by
  unfold ChatDevice.keep
  split
  · refine { sound with stored := ?_ }
    intro other inside
    rcases List.mem_append.mp inside with earlier | last
    · exact sound.stored other earlier
    · rwa [List.mem_singleton.mp last]
  · exact sound

theorem ChatSound.push (sound : ChatSound device) (filed : Filed message) : ChatSound (device.push message) := by
  unfold ChatDevice.push
  split
  · exact sound
  · refine { sound with queued := ?_ }
    intro other inside
    rcases List.mem_append.mp inside with earlier | last
    · exact sound.queued other earlier
    · rwa [List.mem_singleton.mp last]

theorem keep_shown (stores : Bool) : (device.keep stores message).shown = device.shown := by
  unfold ChatDevice.keep
  split <;> rfl

theorem push_shown : (device.push message).shown = device.shown := by
  unfold ChatDevice.push
  split <;> rfl

theorem ChatSound.show (sound : ChatSound device) (shown : List DirectMessage)
    (labelled : ∀ message ∈ shown, Labelled message) :
    ∀ message ∈ device.shown ++ shown, Labelled message := by
  intro message inside
  rcases List.mem_append.mp inside with earlier | new
  · exact sound.shown message earlier
  · exact labelled message new

theorem showMessage_advances (sound : ChatSound device) (filed : Filed message) :
    ChatAdvances device (device.showMessage message) := by
  unfold ChatDevice.showMessage
  cases place : ChatDevice.rowFor device.rows message.conversation with
  | none => exact ⟨sound, List.prefix_rfl⟩
  | some found =>
    obtain ⟨row, rows⟩ := found
    have whole : row = message.conversation := by
      unfold ChatDevice.rowFor at place
      split at place
      · cases place
      · split at place
        · cases place
          rfl
        · split at place
          · cases place
            exact List.take_of_length_le filed.2
          · cases place
    subst whole
    have labelled : ∀ other ∈ [message], Labelled other := by
      intro other only
      rw [List.mem_singleton.mp only]
      exact filed.1
    exact ⟨⟨sound.queued, sound.stored, sound.show _ labelled⟩, List.prefix_append _ _⟩

theorem showMessages_advance (messages : List DirectMessage) (sound : ChatSound device)
    (filed : ∀ message ∈ messages, Filed message) :
    ChatAdvances device (messages.foldl ChatDevice.showMessage device) := by
  induction messages generalizing device with
  | nil => exact ⟨sound, List.prefix_rfl⟩
  | cons message rest ih =>
    have first := showMessage_advances sound (filed message List.mem_cons_self)
    have later := ih first.sound fun other inside => filed other (List.mem_cons_of_mem _ inside)
    exact ⟨later.sound, first.kept.trans later.kept⟩

theorem receive_advances (sound : ChatSound device) (contact : StoredContact) (txtType : UInt8) (stores : Bool) :
    ChatAdvances device (device.receive contact txtType stores) := by
  have stored := sound.keep (storedMessage_filed contact) stores
  have same : (device.keep stores (ChatDevice.storedMessage contact)).shown = device.shown := keep_shown stores
  unfold ChatDevice.receive
  split
  · refine ⟨stored.push ⟨received_labelled contact.pubKey, List.length_take_le _ _⟩, ?_⟩
    rewrite [push_shown, same]
    exact List.prefix_rfl
  · refine ⟨stored, ?_⟩
    rewrite [same]
    exact List.prefix_rfl

theorem companionSend_advances (sound : ChatSound device) (contact : StoredContact) (delivered stores : Bool) :
    ChatAdvances device (device.companionSend contact delivered stores) := by
  unfold ChatDevice.companionSend
  split
  · have filed := storedMessage_filed contact
    have whole : (ChatDevice.storedMessage contact).conversation.take (meshMessageChannelSize - 1) =
        (ChatDevice.storedMessage contact).conversation := List.take_of_length_le filed.2
    dsimp only
    rw [whole]
    refine ⟨(sound.keep filed stores).push filed, ?_⟩
    rewrite [push_shown, keep_shown]
    exact List.prefix_rfl
  · exact ⟨sound, List.prefix_rfl⟩

theorem send_advances (sound : ChatSound device) (row : Nat) (delivered stores : Bool) :
    ChatAdvances device (device.send lookup contacts row delivered stores) := by
  unfold ChatDevice.send
  split
  · exact ⟨sound, List.prefix_rfl⟩
  · next conversation there =>
    split
    · exact ⟨sound, List.prefix_rfl⟩
    · next dm =>
      dsimp only
      split
      · exact ⟨sound, List.prefix_rfl⟩
      · next place contact resolved =>
        split
        · have spelled : conversation = dmText ++ conversation.drop 4 := by
            conv_lhs => rw [← List.take_append_drop 4 conversation, not_not.mp dm]
          have labelled : Labelled ⟨contact.pubKey, if conversation.drop 4 = contactIdFromPubKey contact.pubKey then .id
              else .text (conversation.drop 4), conversation⟩ := by
            by_cases own : conversation.drop 4 = contactIdFromPubKey contact.pubKey
            · rw [if_pos own]
              change conversation = dmText ++ contactIdFromPubKey contact.pubKey
              rw [← own, ← spelled]
            · rw [if_neg own]
              refine ⟨spelled, fun pubKey same => own ?_⟩
              have decoded : contactIdToPubKey (conversation.drop 4) = some pubKey := by
                rw [same, contactIdToPubKey_own]
              rw [resolveContact_id decoded resolved, same]
          have stored := sound.keep (storedMessage_filed contact) stores
          refine ⟨⟨stored.queued, stored.stored, stored.show _ ?_⟩, ?_⟩
          · intro other only
            rwa [List.mem_singleton.mp only]
          · rw [keep_shown]
            exact List.prefix_append _ _
        · exact ⟨sound, List.prefix_rfl⟩

theorem refreshChannels_advances (sound : ChatSound device) (channels : List (List UInt8)) :
    ChatAdvances device (device.refreshChannels channels) :=
  ⟨⟨sound.queued, sound.stored, sound.shown⟩, List.prefix_rfl⟩

theorem openDm_advances (sound : ChatSound device) (channels : List (List UInt8)) (reference : List UInt8) :
    ChatAdvances device (device.openDm channels reference) := by
  have fresh := refreshChannels_advances sound channels
  unfold ChatDevice.openDm
  split
  · exact ⟨sound, List.prefix_rfl⟩
  · dsimp only
    split
    · exact fresh
    · exact ⟨⟨fresh.sound.queued, fresh.sound.stored, fresh.sound.shown⟩, fresh.kept⟩

theorem chat_step_advances (sound : ChatSound device) (event : ChatEvent) :
    ChatAdvances device (device.step lookup contacts event) := by
  cases event with
  | receive place txtType stores =>
    simp only [ChatDevice.step]
    split
    · exact ⟨sound, List.prefix_rfl⟩
    · exact receive_advances sound _ txtType stores
  | poll =>
    have polled : ChatSound { device with queue := device.queue.drop 4 } :=
      ⟨fun message inside => sound.queued message (List.mem_of_mem_drop inside), sound.stored, sound.shown⟩
    have advances := showMessages_advance (device.queue.take 4) polled fun message inside =>
      sound.queued message (List.mem_of_mem_take inside)
    exact ⟨advances.sound, advances.kept⟩
  | refresh channels => exact refreshChannels_advances sound channels
  | openDm channels reference => exact openDm_advances sound channels reference
  | send row delivered stores => exact send_advances sound row delivered stores
  | companionSend place delivered stores =>
    simp only [ChatDevice.step]
    split
    · exact ⟨sound, List.prefix_rfl⟩
    · exact companionSend_advances sound _ delivered stores
  | reboot channels keeps =>
    have reloaded : ∀ message ∈ device.stored.filter keeps, Filed message := fun message inside =>
      sound.stored message (List.mem_of_mem_filter inside)
    have booted : ChatSound ⟨ChatDevice.exportedChannels channels, [], device.stored.filter keeps, device.shown⟩ :=
      ⟨nofun, reloaded, sound.shown⟩
    have advances := showMessages_advance (device.stored.filter keeps) booted reloaded
    exact ⟨advances.sound, advances.kept⟩

end Steps

section Identity

variable {contacts : List StoredContact} {device : ChatDevice}

theorem ChatSound.faithful_iff (sound : ChatSound device) :
    ConversationsFaithful device ↔ ∀ message ∈ device.shown, ∀ other ∈ device.shown, Alike message other := by
  apply forall₂_congr
  intro message shown
  apply forall₂_congr
  intro other shown_other
  exact (sound.shown message shown).faithful_iff_alike (sound.shown other shown_other)

theorem start_sound : ChatSound .start := ⟨nofun, nofun, nofun⟩

end Identity

def ByName (contacts : List StoredContact) (message : DirectMessage) : Prop :=
  ∃ contact ∈ contacts, message.peer = contact.pubKey ∧ message.form = .text (nameText contact)

/-- The messages name their peers alike, by the id or by the name that the store has for them. -/
structure FiledAlike (contacts : List StoredContact) (messages : List DirectMessage) : Prop where
  proper : ∀ message ∈ messages, message.form = .id ∨ ByName contacts message
  alike : ∀ message ∈ messages, ∀ other ∈ messages, Alike message other

/-- One of the messages has this peer and this form. -/
def Among (messages : List DirectMessage) (message : DirectMessage) : Prop :=
  ∃ known ∈ messages, message.peer = known.peer ∧ message.form = known.form

section Forms

variable {contacts : List StoredContact} {messages added after : List DirectMessage} {message : DirectMessage}
  {contact : StoredContact}

theorem among_of_mem (inside : message ∈ messages) : Among messages message := ⟨message, inside, rfl, rfl⟩

theorem FiledAlike.within (filed : FiledAlike contacts messages) (sub : ∀ message ∈ after, Among messages message) :
    FiledAlike contacts after where
  proper := by
    intro message inside
    obtain ⟨known, listed, peer, form⟩ := sub message inside
    unfold ByName
    rw [peer, form]
    exact filed.proper known listed
  alike := by
    intro message inside other inside_other
    obtain ⟨known, listed, peer, form⟩ := sub message inside
    obtain ⟨known', listed', peer', form'⟩ := sub other inside_other
    unfold Alike
    rw [peer, form, peer', form']
    exact filed.alike known listed known' listed'

theorem FiledAlike.join (filed : FiledAlike contacts messages) (filed_added : FiledAlike contacts added)
    (across : ∀ message ∈ added, ∀ other ∈ messages, Alike message other) :
    FiledAlike contacts (messages ++ added) where
  proper := by
    intro message inside
    exact (List.mem_append.mp inside).elim (filed.proper message) (filed_added.proper message)
  alike := by
    intro message inside other inside_other
    rcases List.mem_append.mp inside with old | new
    · rcases List.mem_append.mp inside_other with old_other | new_other
      · exact filed.alike message old other old_other
      · exact (across other new_other message old).symm
    · rcases List.mem_append.mp inside_other with old_other | new_other
      · exact across message new other old_other
      · exact filed_added.alike message new other new_other

theorem alike_id (free : ¬NamedByText messages contact) (peer : message.peer = contact.pubKey)
    (form : message.form = .id) : ∀ other ∈ messages, Alike message other := by
  intro other inside
  refine ⟨fun same => ?_, fun _ _ => form⟩
  by_contra differs
  exact free ⟨other, inside, same.symm.trans peer, fun by_id => differs (form.trans by_id.symm)⟩

/-- A contact has one name in the table, so two messages by names disagree for namesakes only. -/
theorem alike_names {other : DirectMessage} {owner : StoredContact}
    (distinct : (contacts.map StoredContact.pubKey).Nodup) (listed : contact ∈ contacts)
    (listed_owner : owner ∈ contacts) (apart : ¬Namesakes contact owner) (peer : message.peer = contact.pubKey)
    (form : message.form = .text (nameText contact)) (peer_owner : other.peer = owner.pubKey)
    (form_owner : other.form = .text (nameText owner)) : Alike message other := by
  constructor
  · intro same
    have here : contact = owner := List.inj_on_of_nodup_map distinct listed listed_owner
      (peer.symm.trans (same.trans peer_owner))
    rw [form, form_owner, here]
  · intro differs same
    rw [form, form_owner, DmForm.text.injEq] at same
    exact absurd ⟨fun keys => differs (peer.trans (keys.trans peer_owner.symm)), same⟩ apart

theorem alike_name (distinct : (contacts.map StoredContact.pubKey).Nodup) (filed : FiledAlike contacts messages)
    (listed : contact ∈ contacts) (free : NameFree contacts messages contact) (peer : message.peer = contact.pubKey)
    (form : message.form = .text (nameText contact)) : ∀ other ∈ messages, Alike message other := by
  intro other inside
  rcases filed.proper other inside with by_id | ⟨owner, listed_owner, peer_owner, form_owner⟩
  · refine ⟨fun same => ?_, fun _ same => same.trans by_id⟩
    exact absurd ⟨other, inside, same.symm.trans peer, by_id⟩ free.1
  · have apart : ¬Namesakes contact owner := by
      intro namesakes
      refine free.2 owner listed_owner namesakes ⟨other, inside, peer_owner, ?_⟩
      rw [form_owner]
      exact nofun
    exact alike_names distinct listed listed_owner apart peer form peer_owner form_owner

theorem filedAlike_single (proper : message.form = .id ∨ ByName contacts message) : FiledAlike contacts [message] where
  proper := by simpa using proper
  alike := by simp [Alike]

theorem FiledAlike.add (filed : FiledAlike contacts messages) (proper : message.form = .id ∨ ByName contacts message)
    (alike : ∀ other ∈ messages, Alike message other) : FiledAlike contacts (messages ++ [message]) :=
  filed.join (filedAlike_single proper) fun _ only => List.mem_singleton.mp only ▸ alike

theorem storedMessage_byName (listed : contact ∈ contacts) : ByName contacts (ChatDevice.storedMessage contact) :=
  ⟨contact, listed, rfl, rfl⟩

end Forms

/-- What holds along a run that meets the condition. -/
structure OneForm (contacts : List StoredContact) (device : ChatDevice) : Prop where
  sound : ChatSound device
  filed : FiledAlike contacts device.presented
  stored : ∀ message ∈ device.stored, ByName contacts message

section Forms

variable {lookup : ContactLookup} {contacts : List StoredContact} {device : ChatDevice} {message : DirectMessage}

theorem keep_presented (stores : Bool) : (device.keep stores message).presented = device.presented := by
  unfold ChatDevice.keep
  split <;> rfl

theorem keep_stored (stores : Bool) {property : DirectMessage → Prop} (all : ∀ other ∈ device.stored, property other)
    (holds : property message) : ∀ other ∈ (device.keep stores message).stored, property other := by
  unfold ChatDevice.keep
  split
  · intro other inside
    rcases List.mem_append.mp inside with earlier | last
    · exact all other earlier
    · rwa [List.mem_singleton.mp last]
  · exact all

theorem push_presented : ∀ other ∈ (device.push message).presented, other ∈ device.presented ++ [message] := by
  intro other inside
  unfold ChatDevice.push at inside
  split at inside
  · exact List.mem_append_left _ inside
  · rwa [ChatDevice.presented, ← List.append_assoc] at inside

theorem push_stored : (device.push message).stored = device.stored := by
  unfold ChatDevice.push
  split <;> rfl

theorem showMessages_presented (messages : List DirectMessage) :
    (messages.foldl ChatDevice.showMessage device).queue = device.queue ∧
      (messages.foldl ChatDevice.showMessage device).stored = device.stored ∧
      ∀ other ∈ (messages.foldl ChatDevice.showMessage device).shown, other ∈ device.shown ∨ Among messages other := by
  induction messages generalizing device with
  | nil => exact ⟨rfl, rfl, fun other => Or.inl⟩
  | cons message rest ih =>
    obtain ⟨queue, stored, shown⟩ := @ih (device.showMessage message)
    have first : (device.showMessage message).queue = device.queue ∧
        (device.showMessage message).stored = device.stored ∧ ∀ other ∈ (device.showMessage message).shown,
          other ∈ device.shown ∨ Among (message :: rest) other := by
      unfold ChatDevice.showMessage
      split
      · exact ⟨rfl, rfl, fun other => Or.inl⟩
      · refine ⟨rfl, rfl, fun other inside => ?_⟩
        rcases List.mem_append.mp inside with earlier | last
        · exact Or.inl earlier
        · obtain rfl := List.mem_singleton.mp last
          exact Or.inr ⟨message, List.mem_cons_self, rfl, rfl⟩
    refine ⟨queue.trans first.1, stored.trans first.2.1, fun other inside => ?_⟩
    rcases shown other inside with now | ⟨known, later, same⟩
    · exact first.2.2 other now
    · exact Or.inr ⟨known, List.mem_cons_of_mem _ later, same⟩

theorem OneForm.faithful (one : OneForm contacts device) : ConversationsFaithful device :=
  one.sound.faithful_iff.mpr fun message shown other shown_other =>
    one.filed.alike message (List.mem_append_left _ shown) other (List.mem_append_left _ shown_other)

/-- A store and a push, as a live message and one of a companion bring them. -/
theorem OneForm.bring (one : OneForm contacts device) {copy : DirectMessage} (stores : Bool)
    (stored : ByName contacts copy) (proper : message.form = .id ∨ ByName contacts message)
    (alike : ∀ other ∈ device.presented, Alike message other)
    (sound : ChatSound ((device.keep stores copy).push message)) :
    OneForm contacts ((device.keep stores copy).push message) where
  sound := sound
  filed := by
    apply (one.filed.add proper alike).within
    intro other inside
    have known := push_presented other inside
    rw [keep_presented] at known
    exact among_of_mem known
  stored := by
    rw [push_stored]
    exact keep_stored stores one.stored stored

theorem OneForm.receive (one : OneForm contacts device) {contact : StoredContact} (listed : contact ∈ contacts)
    (txtType : UInt8) (stores : Bool)
    (free : companionMessageShouldPresentInChat txtType = true → ¬NamedByText device.presented contact) :
    OneForm contacts (device.receive contact txtType stores) := by
  have sound := (receive_advances one.sound contact txtType stores).sound
  unfold ChatDevice.receive at sound ⊢
  split at sound
  · next presents =>
    rw [if_pos presents]
    exact one.bring stores (storedMessage_byName listed) (Or.inl rfl) (alike_id (free presents) rfl rfl) sound
  · next hidden =>
    rw [if_neg hidden]
    refine ⟨sound, ?_, keep_stored stores one.stored (storedMessage_byName listed)⟩
    rw [keep_presented]
    exact one.filed

theorem OneForm.companionSend (distinct : (contacts.map StoredContact.pubKey).Nodup) (one : OneForm contacts device)
    {contact : StoredContact} (listed : contact ∈ contacts) (delivered stores : Bool)
    (free : delivered = true → NameFree contacts device.presented contact) :
    OneForm contacts (device.companionSend contact delivered stores) := by
  have sound := (companionSend_advances one.sound contact delivered stores).sound
  unfold ChatDevice.companionSend at sound ⊢
  cases delivered with
  | false => exact one
  | true =>
    have alike := @alike_name contacts device.presented (ChatDevice.storedMessage contact) contact distinct one.filed
      listed (free rfl) rfl rfl
    exact one.bring stores (storedMessage_byName listed) (Or.inr (storedMessage_byName listed)) alike sound

theorem OneForm.poll (one : OneForm contacts device) : OneForm contacts device.poll := by
  have sound := (@chat_step_advances .first contacts device one.sound .poll).sound
  obtain ⟨queue, stored, shown⟩ :=
    @showMessages_presented { device with queue := device.queue.drop 4 } (device.queue.take 4)
  refine ⟨sound, one.filed.within fun other inside => ?_, ?_⟩
  · rcases List.mem_append.mp inside with now | waits
    · rcases shown other now with earlier | ⟨known, polled, same⟩
      · exact among_of_mem (List.mem_append_left _ earlier)
      · exact ⟨known, List.mem_append_right _ (List.mem_of_mem_take polled), same⟩
    · rw [ChatDevice.poll, queue] at waits
      exact among_of_mem (List.mem_append_right _ (List.mem_of_mem_drop waits))
  · rw [ChatDevice.poll, stored]
    exact one.stored

/-- A text that was sent is shown at once, before what waits. -/
theorem OneForm.show (one : OneForm contacts device) {copy : DirectMessage} (stores : Bool)
    (stored : ByName contacts copy) (proper : message.form = .id ∨ ByName contacts message)
    (alike : ∀ other ∈ device.presented, Alike message other)
    (sound : ChatSound { device.keep stores copy with shown := (device.keep stores copy).shown ++ [message] }) :
    OneForm contacts { device.keep stores copy with shown := (device.keep stores copy).shown ++ [message] } where
  sound := sound
  filed := by
    apply (one.filed.add proper alike).within
    intro other inside
    apply among_of_mem
    have same : (device.keep stores copy).presented = device.presented := keep_presented stores
    rw [← same]
    simp only [ChatDevice.presented, List.mem_append] at inside ⊢
    tauto
  stored := keep_stored stores one.stored stored

theorem OneForm.send (distinct : (contacts.map StoredContact.pubKey).Nodup) (one : OneForm contacts device)
    (row : Nat) (delivered stores : Bool) (keeps : KeepsForm lookup contacts device (.send row delivered stores)) :
    OneForm contacts (device.send lookup contacts row delivered stores) := by
  have sound : ChatSound (device.send lookup contacts row delivered stores) :=
    (send_advances one.sound row delivered stores).sound
  unfold ChatDevice.send at sound ⊢
  cases there : device.rows[row]? with
  | none => exact one
  | some conversation =>
    rw [there] at sound
    dsimp only at sound ⊢
    by_cases dm : conversation.take 4 = dmText
    · rw [if_neg (not_not.mpr dm)] at sound ⊢
      cases resolved : resolveContact lookup contacts (conversation.drop 4) with
      | none => exact one
      | some found =>
        obtain ⟨place, contact⟩ := found
        rw [resolved] at sound
        dsimp only at sound ⊢
        cases delivered with
        | false => exact one
        | true =>
          have listed : contact ∈ contacts := List.mem_of_getElem? (resolve_spec resolved)
          have named := keeps rfl conversation there dm (place, contact) resolved
          dsimp only at named
          rw [if_pos rfl] at sound ⊢
          by_cases own : conversation.drop 4 = contactIdFromPubKey contact.pubKey
          · rw [if_pos own] at named sound ⊢
            exact one.show stores (storedMessage_byName listed) (Or.inl rfl) (alike_id named rfl rfl) sound
          · rw [if_neg own] at named sound ⊢
            have by_name : DmForm.text (conversation.drop 4) = .text (nameText contact) :=
              congrArg DmForm.text named.1
            exact one.show stores (storedMessage_byName listed) (Or.inr ⟨contact, listed, rfl, by_name⟩)
              (alike_name distinct one.filed listed named.2 rfl by_name) sound
    · rw [if_pos dm]
      exact one

theorem OneForm.refreshChannels (one : OneForm contacts device) (channels : List (List UInt8)) :
    OneForm contacts (device.refreshChannels channels) :=
  ⟨(refreshChannels_advances one.sound channels).sound, one.filed, one.stored⟩

theorem OneForm.openDm (one : OneForm contacts device) (channels : List (List UInt8)) (reference : List UInt8) :
    OneForm contacts (device.openDm channels reference) := by
  have sound := (openDm_advances one.sound channels reference).sound
  unfold ChatDevice.openDm at sound ⊢
  split
  · exact one
  · dsimp only at sound ⊢
    split
    · exact one.refreshChannels channels
    · next grows =>
      rw [if_neg ‹¬reference.isEmpty = true›, if_neg grows] at sound
      exact ⟨sound, one.filed, one.stored⟩

/-- Reloaded messages are by the names of contacts without messages under their ids, and no two of namesakes. -/
theorem OneForm.reboot (distinct : (contacts.map StoredContact.pubKey).Nodup) (one : OneForm contacts device)
    (channels : List (List UInt8)) (kept : DirectMessage → Bool)
    (keeps : KeepsForm lookup contacts device (.reboot channels kept)) :
    OneForm contacts (device.reboot channels kept) := by
  have sound : ChatSound (device.step lookup contacts (.reboot channels kept)) :=
    (chat_step_advances one.sound (.reboot channels kept)).sound
  obtain ⟨queue, stored, shown⟩ := @showMessages_presented
    ⟨ChatDevice.exportedChannels channels, [], device.stored.filter kept, device.shown⟩ (device.stored.filter kept)
  have filed_shown : FiledAlike contacts device.shown := one.filed.within fun other inside =>
    among_of_mem (List.mem_append_left _ inside)
  have reloads : ∀ message ∈ device.stored.filter kept, ∀ contact, message.peer = contact.pubKey →
      Reloads device kept contact := fun message inside contact peer =>
    ⟨message, List.mem_of_mem_filter inside, (List.mem_filter.mp inside).2, peer⟩
  have by_name : ∀ message ∈ device.stored.filter kept, ByName contacts message := fun message inside =>
    one.stored message (List.mem_of_mem_filter inside)
  have across : ∀ message ∈ device.stored.filter kept, ∀ other ∈ device.shown, Alike message other := by
    intro message inside
    obtain ⟨contact, listed, peer, form⟩ := by_name message inside
    have free := (keeps contact listed (reloads message inside contact peer)).1
    exact alike_name distinct filed_shown listed free peer form
  have filed_reloaded : FiledAlike contacts (device.stored.filter kept) := by
    refine ⟨fun message inside => Or.inr (by_name message inside), fun message inside other inside_other => ?_⟩
    obtain ⟨contact, listed, peer, form⟩ := by_name message inside
    obtain ⟨owner, listed_owner, peer_owner, form_owner⟩ := by_name other inside_other
    have apart : ¬Namesakes contact owner := fun namesakes =>
      (keeps contact listed (reloads message inside contact peer)).2 owner listed_owner namesakes
        (reloads other inside_other owner peer_owner)
    exact alike_names distinct listed listed_owner apart peer form peer_owner form_owner
  refine ⟨sound, (filed_shown.join filed_reloaded across).within fun other inside => ?_, ?_⟩
  · rcases List.mem_append.mp inside with now | waits
    · rcases shown other now with earlier | ⟨known, reloaded, same⟩
      · exact among_of_mem (List.mem_append_left _ earlier)
      · exact ⟨known, List.mem_append_right _ reloaded, same⟩
    · rw [ChatDevice.reboot, queue] at waits
      cases waits
  · rw [ChatDevice.reboot, stored]
    exact by_name

theorem OneForm.step (distinct : (contacts.map StoredContact.pubKey).Nodup) (one : OneForm contacts device)
    (event : ChatEvent) (keeps : KeepsForm lookup contacts device event) :
    OneForm contacts (device.step lookup contacts event) := by
  cases event with
  | receive place txtType stores =>
    simp only [ChatDevice.step]
    cases there : contacts[place]? with
    | none => exact one
    | some contact =>
      exact one.receive (List.mem_of_getElem? there) txtType stores fun presents => keeps presents contact there
  | poll => exact one.poll
  | refresh channels => exact one.refreshChannels channels
  | openDm channels reference => exact one.openDm channels reference
  | send row delivered stores => exact one.send distinct row delivered stores keeps
  | companionSend place delivered stores =>
    simp only [ChatDevice.step]
    cases there : contacts[place]? with
    | none => exact one
    | some contact =>
      exact one.companionSend distinct (List.mem_of_getElem? there) delivered stores fun sent =>
        keeps sent contact there
  | reboot channels kept => exact one.reboot distinct channels kept keeps

theorem start_oneForm : OneForm contacts .start := ⟨start_sound, ⟨nofun, nofun⟩, nofun⟩

end Forms

section Identity

variable {contacts : List StoredContact}

/-- Every state of a run whose events each keep a contact's messages under one form has them in one conversation. -/
theorem dm_conversations_faithful (lookup : ContactLookup) (contacts : List StoredContact)
    (distinct : (contacts.map StoredContact.pubKey).Nodup) (history : List ChatEvent)
    (meets : Runs.Along (ChatDevice.step lookup contacts) (KeepsForm lookup contacts) .start history)
    (before : List ChatEvent) (reached : before <+: history) :
    ConversationsFaithful (Runs.run (ChatDevice.step lookup contacts) .start before) := by
  obtain ⟨later, rfl⟩ := reached
  have early := (Runs.along_append.mp meets).1
  have one : OneForm contacts (Runs.run (ChatDevice.step lookup contacts) .start before) :=
    Runs.run_invariant_along (OneForm contacts) start_oneForm
      (fun _ event one keeps => one.step distinct event keeps) early
  exact one.faithful

/-- Ann is written to by her id and Bo by the name, over a reboot that reloads what Bo's conversation has. -/
def keptApart : List ChatEvent :=
  [.refresh [], .receive 0 0 true, .companionSend 1 true true, .poll, .send 1 true true, .send 2 true true,
    .reboot [] fun message => message.form = .text [66, 111], .companionSend 1 true true, .poll, .receive 0 2 false]

theorem bo_fits : ([66, 111] : List UInt8).length ≤ 32 := by decide

theorem bo_nonzero : ∀ byte ∈ ([66, 111] : List UInt8), byte ≠ 0 := by decide

def annAndBo : List StoredContact :=
  [sampleContact 1 [65, 110, 110] ann_fits ann_nonzero, sampleContact 2 [66, 111] bo_fits bo_nonzero]

theorem dm_conversations_faithful_keptApart :
    (annAndBo.map StoredContact.pubKey).Nodup ∧
      Runs.Along (ChatDevice.step .first annAndBo) (KeepsForm .first annAndBo) .start keptApart ∧
      (Runs.run (ChatDevice.step .first annAndBo) .start keptApart).shown.length = 7 ∧
      ConversationsFaithful (Runs.run (ChatDevice.step .first annAndBo) .start keptApart) := by
  have distinct : (annAndBo.map StoredContact.pubKey).Nodup := by decide
  have meets : Runs.Along (ChatDevice.step .first annAndBo) (KeepsForm .first annAndBo) .start keptApart := by
    simp only [keptApart, Runs.Along]
    decide +kernel
  exact ⟨distinct, meets, by decide +kernel,
    dm_conversations_faithful .first annAndBo distinct keptApart meets keptApart List.prefix_rfl⟩

def receivedAndReloaded : List ChatEvent :=
  [.reboot [] fun _ => true, .receive 0 0 true, .poll, .reboot [] fun _ => true]

theorem receivedAndReloaded_splits :
    ¬ ∀ (lookup : ContactLookup) (contacts : List StoredContact) (history : List ChatEvent),
      ConversationsFaithful (Runs.run (ChatDevice.step lookup contacts) .start history) := by
  intro faithful
  let contacts : List StoredContact := [sampleContact 1 [65, 110, 110] ann_fits ann_nonzero]
  obtain ⟨live, loaded, shown, same, split⟩ : ∃ live loaded,
      (Runs.run (ChatDevice.step .first contacts) .start receivedAndReloaded).shown = [live, loaded] ∧
        live.peer = loaded.peer ∧ live.conversation.length ≠ loaded.conversation.length :=
    ⟨_, _, rfl, rfl, by decide⟩
  have one := (faithful .first contacts receivedAndReloaded live (by simp [shown]) loaded (by simp [shown])).mpr same
  exact split (congrArg List.length one)

end Identity

end SigurdOS.Mesh
