import SigurdOS.Companion.Device

namespace SigurdOS.Companion

open Bytes

def nextContactRevision (clockValue highWater : UInt32) : Option UInt32 :=
  if highWater = 0xFFFFFFFF then none
  else some (if clockValue > highWater then clockValue else highWater + 1)

theorem nextContactRevision_gt {clockValue highWater revision : UInt32}
    (next : nextContactRevision clockValue highWater = some revision) : highWater < revision := by
  unfold nextContactRevision at next
  split at next
  · cases next
  rename_i below
  obtain rfl := Option.some.inj next
  split
  · assumption
  · have bound : highWater.toNat ≠ 4294967295 := fun full => below (UInt32.toNat_inj.mp full)
    have range := highWater.toNat_lt
    rw [UInt32.lt_iff_toNat_lt, UInt32.toNat_add]
    have one : (1 : UInt32).toNat = 1 := rfl
    omega

section Client

def endValue : List UInt8 → Option UInt32
  | code :: rest => if code = respCodeEndOfContacts then some (UInt32.ofNat (leNumber (rest.take 4))) else none
  | [] => none

def contactKey : List UInt8 → Option (List UInt8)
  | code :: rest => if code = respCodeContact then some (rest.take pubKeySize) else none
  | [] => none

def lastEnd (frames : List (List UInt8)) : Option UInt32 := (frames.filterMap endValue).getLast?

/-- The version of a contact that the client holds: the last one it has received. -/
def held (frames : List (List UInt8)) (key : List UInt8) : Option (List UInt8) :=
  (frames.filter (fun frame => contactKey frame == some key)).getLast?

def contactFrame (contact : CompanionContact) : List UInt8 := (contactFields respCodeContact contact).flatten

def endFrame (value : UInt32) : List UInt8 := respCodeEndOfContacts :: word value

theorem endValue_endFrame (value : UInt32) : endValue (endFrame value) = some value := by
  have bytes : (word value).take 4 = leBytes 4 value.toNat := List.take_of_length_le (by simp [word])
  rw [endFrame, endValue, if_pos rfl, bytes, leNumber_leBytes]
  have range := value.toNat_lt
  rw [Nat.mod_eq_of_lt (by omega), UInt32.ofNat_toNat]

theorem contactKey_contactFrame (contact : CompanionContact) :
    contactKey (contactFrame contact) = some contact.pubKey.bytes := by
  have key : ∀ rest, (contact.pubKey.bytes ++ rest).take pubKeySize = contact.pubKey.bytes := by
    intro rest
    rw [List.take_append_of_le_length (by rw [contact.pubKey.length_eq])]
    exact List.take_of_length_le contact.pubKey.length_eq.le
  simp only [contactFrame, contactFields, List.flatten_cons, List.singleton_append, contactKey, if_true, key]

theorem lastEnd_concat_end (frames : List (List UInt8)) (value : UInt32) :
    lastEnd (frames ++ [endFrame value]) = some value := by
  simp [lastEnd, List.filterMap_append, endValue_endFrame]

theorem lastEnd_concat {frame : List UInt8} (other : endValue frame = none) (frames : List (List UInt8)) :
    lastEnd (frames ++ [frame]) = lastEnd frames := by
  simp [lastEnd, List.filterMap_append, other]

theorem held_concat_contact (frames : List (List UInt8)) (contact : CompanionContact) :
    held (frames ++ [contactFrame contact]) contact.pubKey.bytes = some (contactFrame contact) := by
  simp [held, List.filter_append, contactKey_contactFrame]

theorem held_concat {frame key : List UInt8} (other : contactKey frame ≠ some key) (frames : List (List UInt8)) :
    held (frames ++ [frame]) key = held frames key := by
  have skipped : [frame].filter (fun frame => contactKey frame == some key) = [] := by
    simp [other]
  rw [held, List.filter_append, skipped, List.append_nil, held]

end Client

section Table

variable {σ : Type} (h : CompanionBridgeHost σ)

structure At (host : σ) (index : Nat) (contact : CompanionContact) : Prop where
  listed : index < h.contactCount host
  found : h.getContact index host = some contact

def highWater (host : σ) : UInt32 :=
  ((List.range (h.contactCount host)).filterMap (h.getContact · host)).foldl
    (fun highest contact => if contact.lastmod > highest then contact.lastmod else highest) 0

/-- One contact is added behind the others or updated in its place, under a new revision. -/
structure Revises (before after : σ) (index : Nat) (contact : CompanionContact) : Prop where
  count : h.contactCount after = max (h.contactCount before) (index + 1)
  found : h.getContact index after = some contact
  others : ∀ other < h.contactCount before, other ≠ index → h.getContact other after = h.getContact other before
  identity : (∃ old, At h before index old ∧ old.pubKey = contact.pubKey) ∨
    (index = h.contactCount before ∧ ∀ other old, At h before other old → old.pubKey ≠ contact.pubKey)
  revision : ∃ clockValue, nextContactRevision clockValue (highWater h before) = some contact.lastmod

def SameContacts (before after : σ) : Prop :=
  h.contactCount after = h.contactCount before ∧ ∀ index, h.getContact index after = h.getContact index before

def Reached (host : σ) (revision : UInt32) : Prop :=
  revision = 0 ∨ ∃ index contact, At h host index contact ∧ revision ≤ contact.lastmod

def DistinctKeys (host : σ) : Prop :=
  ∀ i j a b, At h host i a → At h host j b → a.pubKey = b.pubKey → i = j

variable {h} {before after host : σ} {index : Nat} {contact : CompanionContact}

theorem At.unique {other : CompanionContact} (here : At h host index contact) (there : At h host index other) :
    contact = other := Option.some.inj (here.found.symm.trans there.found)

theorem foldl_highest (contacts : List CompanionContact) (start : UInt32) :
    start ≤ contacts.foldl (fun highest contact => if contact.lastmod > highest then contact.lastmod
      else highest) start ∧
      ∀ contact ∈ contacts, contact.lastmod ≤
        contacts.foldl (fun highest contact => if contact.lastmod > highest then contact.lastmod else highest)
            start := by
  induction contacts generalizing start with
  | nil => exact ⟨UInt32.le_refl _, by simp⟩
  | cons head rest ih =>
    obtain ⟨grows, bounds⟩ := ih (if head.lastmod > start then head.lastmod else start)
    have both : start ≤ (if head.lastmod > start then head.lastmod else start) ∧
        head.lastmod ≤ (if head.lastmod > start then head.lastmod else start) := by
      split
      · rename_i higher
        exact ⟨UInt32.le_of_lt higher, UInt32.le_refl _⟩
      · rename_i lower
        exact ⟨UInt32.le_refl _, UInt32.not_lt.mp lower⟩
    refine ⟨UInt32.le_trans both.1 grows, fun contact member => ?_⟩
    rcases List.mem_cons.mp member with rfl | later
    · exact UInt32.le_trans both.2 grows
    · exact bounds contact later

theorem At.le_highWater (here : At h host index contact) : contact.lastmod ≤ highWater h host := by
  refine (foldl_highest _ 0).2 contact ?_
  exact List.mem_filterMap.mpr ⟨index, List.mem_range.mpr here.listed, here.found⟩

theorem Revises.newest (revises : Revises h before after index contact) {other : Nat} {old : CompanionContact}
    (there : At h before other old) : old.lastmod < contact.lastmod := by
  obtain ⟨clockValue, next⟩ := revises.revision
  exact UInt32.lt_of_le_of_lt there.le_highWater (nextContactRevision_gt next)

theorem Revises.nonzero (revises : Revises h before after index contact) : contact.lastmod ≠ 0 := by
  obtain ⟨clockValue, next⟩ := revises.revision
  intro zero
  have above := nextContactRevision_gt next
  rw [zero] at above
  exact absurd above (UInt32.not_lt_zero)

theorem Revises.cases (revises : Revises h before after index contact) {other : Nat} {found : CompanionContact}
    (there : At h after other found) : (other = index ∧ found = contact) ∨
    (other ≠ index ∧ At h before other found) := by
  by_cases same : other = index
  · subst same
    exact Or.inl ⟨rfl, Option.some.inj (there.found.symm.trans revises.found)⟩
  · have listed : other < h.contactCount before := by
      have bound := there.listed
      rw [revises.count] at bound
      rcases revises.identity with ⟨old, here, -⟩ | ⟨end_, -⟩
      · have inside := here.listed
        omega
      · omega
    exact Or.inr ⟨same, listed, (revises.others other listed same).symm.trans there.found⟩

theorem Revises.at (revises : Revises h before after index contact) : At h after index contact :=
  ⟨by rw [revises.count]; omega, revises.found⟩

theorem Revises.reached (revises : Revises h before after index contact) {revision : UInt32}
    (reached : Reached h before revision) : Reached h after revision := by
  rcases reached with zero | ⟨other, old, there, bound⟩
  · exact Or.inl zero
  · exact Or.inr ⟨index, contact, revises.at, UInt32.le_trans bound (UInt32.le_of_lt (revises.newest there))⟩

theorem Revises.distinct (revises : Revises h before after index contact) (distinct : DistinctKeys h before) :
    DistinctKeys h after := by
  have fresh : ∀ other found, other ≠ index → At h before other found → found.pubKey ≠ contact.pubKey := by
    intro other found apart there same
    rcases revises.identity with ⟨old, here, key⟩ | ⟨-, unused⟩
    · exact apart (distinct other index found old there here (same.trans key.symm))
    · exact unused other found there same
  intro i j a b first second same
  rcases revises.cases first with ⟨rfl, rfl⟩ | ⟨apart, old⟩
  · rcases revises.cases second with ⟨rfl, rfl⟩ | ⟨apart, old⟩
    · rfl
    · exact absurd same.symm (fresh j b apart old)
  · rcases revises.cases second with ⟨rfl, rfl⟩ | ⟨-, other⟩
    · exact absurd same (fresh i a apart old)
    · exact distinct i j a b old other same

theorem SameContacts.at (same : SameContacts h before after) :
    At h after index contact ↔ At h before index contact := by
  constructor
  · rintro ⟨listed, found⟩
    exact ⟨same.1 ▸ listed, same.2 index ▸ found⟩
  · rintro ⟨listed, found⟩
    exact ⟨same.1.symm ▸ listed, (same.2 index).trans found⟩

end Table

section Coverage

variable {σ : Type} (h : CompanionBridgeHost σ)

/-- A client that has received the frames holds the current version of every contact up to its cursor. -/
def Covers (host : σ) (frames : List (List UInt8)) : Prop :=
  ∀ cursor, lastEnd frames = some cursor → Reached h host cursor ∧
    ∀ index contact, At h host index contact → contact.lastmod ≤ cursor →
      held frames contact.pubKey.bytes = some (contactFrame contact)

/-- The revision is newer than everything the pass has sent and than what it started from. -/
def Newer (since recent revision : UInt32) : Prop := recent < revision ∧ since < revision

/-- A pass in front of a contact. A contact behind it that is newer than all it has sent was changed
    after it was passed; the pass stays sound as long as none of the contacts ahead is newer still. -/
structure Passing (host : σ) (frames : List (List UInt8)) (next : Nat) (since recent : UInt32) : Prop where
  cursor : since = (lastEnd frames).getD 0
  reached : Reached h host recent
  behind : ∀ index contact, index < next → At h host index contact → ¬ Newer since recent contact.lastmod →
    held frames contact.pubKey.bytes = some (contactFrame contact)
  ahead : ∀ index later contact other, index < next → next ≤ later → At h host index contact →
    At h host later other → Newer since recent contact.lastmod → other.lastmod < contact.lastmod

variable {h} {host before after : σ} {frames : List (List UInt8)} {next index : Nat} {since recent : UInt32}
  {contact : CompanionContact}

theorem Covers.concat (covers : Covers h host frames) {frame : List UInt8} (notEnd : endValue frame = none)
    (notContact : contactKey frame = none) : Covers h host (frames ++ [frame]) := by
  intro cursor ended
  rw [lastEnd_concat notEnd] at ended
  refine ⟨(covers cursor ended).1, fun index contact here bound => ?_⟩
  rw [held_concat (by simp [notContact])]
  exact (covers cursor ended).2 index contact here bound

theorem Covers.send (covers : Covers h host frames) (distinct : DistinctKeys h host) (here : At h host index contact) :
    Covers h host (frames ++ [contactFrame contact]) := by
  have notEnd : endValue (contactFrame contact) = none := rfl
  intro cursor ended
  rw [lastEnd_concat notEnd] at ended
  refine ⟨(covers cursor ended).1, fun other found there bound => ?_⟩
  by_cases same : other = index
  · subst same
    obtain rfl := here.unique there
    exact held_concat_contact frames contact
  · rw [held_concat]
    · exact (covers cursor ended).2 other found there bound
    · rw [contactKey_contactFrame]
      intro key
      exact same (distinct other index found contact there here (FixedBytes.ext (Option.some.inj key).symm))

theorem Covers.revise (covers : Covers h before frames) (revises : Revises h before after index contact) :
    Covers h after frames := by
  intro cursor ended
  obtain ⟨reached, current⟩ := covers cursor ended
  refine ⟨revises.reached reached, fun other found there bound => ?_⟩
  rcases revises.cases there with ⟨-, rfl⟩ | ⟨-, old⟩
  · rcases reached with rfl | ⟨place, high, listed, below⟩
    · exact absurd (UInt32.le_zero_iff.mp bound) revises.nonzero
    · exact absurd (revises.newest listed) (UInt32.not_lt.mpr (UInt32.le_trans bound below))
  · exact current other found old bound

theorem Reached.same {revision : UInt32} (reached : Reached h before revision) (same : SameContacts h before after) :
    Reached h after revision := by
  rcases reached with zero | ⟨place, high, listed, below⟩
  · exact Or.inl zero
  · exact Or.inr ⟨place, high, same.at.mpr listed, below⟩

theorem Covers.same (covers : Covers h before frames) (same : SameContacts h before after) : Covers h after frames := by
  intro cursor ended
  obtain ⟨reached, current⟩ := covers cursor ended
  exact ⟨reached.same same, fun other found there bound => current other found (same.at.mp there) bound⟩

theorem passing_start (host : σ) (frames : List (List UInt8)) :
    Passing h host frames 0 ((lastEnd frames).getD 0) 0 :=
  ⟨rfl, Or.inl rfl, fun _ _ below => absurd below (Nat.not_lt_zero _),
    fun _ _ _ _ below => absurd below (Nat.not_lt_zero _)⟩

theorem Passing.skip (passing : Passing h host frames next since recent) (covers : Covers h host frames)
    (old : ∀ contact, At h host next contact → since ≠ 0 ∧ contact.lastmod ≤ since) :
    Passing h host frames (next + 1) since recent := by
  refine ⟨passing.cursor, passing.reached, fun index contact below here known => ?_,
    fun index later contact other below beyond here there newer => ?_⟩
  · rcases Nat.lt_succ_iff_lt_or_eq.mp below with below | rfl
    · exact passing.behind index contact below here known
    · obtain ⟨nonzero, bound⟩ := old contact here
      have cursor := passing.cursor
      cases ended : lastEnd frames with
      | none =>
        rw [ended] at cursor
        exact absurd cursor nonzero
      | some value =>
        rw [ended, Option.getD_some] at cursor
        exact (covers value ended).2 index contact here (cursor ▸ bound)
  · rcases Nat.lt_succ_iff_lt_or_eq.mp below with below | rfl
    · exact passing.ahead index later contact other below (by omega) here there newer
    · exact absurd newer.2 (UInt32.not_lt.mpr (old contact here).2)

def raised (recent lastmod : UInt32) : UInt32 := if lastmod > recent then lastmod else recent

theorem le_raised (recent lastmod : UInt32) : lastmod ≤ raised recent lastmod ∧ recent ≤ raised recent lastmod := by
  unfold raised
  split
  · rename_i higher
    exact ⟨UInt32.le_refl _, UInt32.le_of_lt higher⟩
  · rename_i lower
    exact ⟨UInt32.not_lt.mp lower, UInt32.le_refl _⟩

theorem Passing.send (passing : Passing h host frames next since recent) (distinct : DistinctKeys h host)
    (here : At h host next contact) :
    Passing h host (frames ++ [contactFrame contact]) (next + 1) since (raised recent contact.lastmod) := by
  obtain ⟨own, kept⟩ := le_raised recent contact.lastmod
  have before_raise : ∀ {revision}, Newer since (raised recent contact.lastmod) revision →
      Newer since recent revision :=
    fun newer => ⟨UInt32.lt_of_le_of_lt kept newer.1, newer.2⟩
  refine ⟨?_, ?_, fun index found below there known => ?_, fun index later found other below beyond there ahead
    newer => ?_⟩
  · rw [lastEnd_concat rfl]
    exact passing.cursor
  · unfold raised
    split
    · exact Or.inr ⟨next, contact, here, UInt32.le_refl _⟩
    · exact passing.reached
  · rcases Nat.lt_succ_iff_lt_or_eq.mp below with below | rfl
    · rw [held_concat]
      · refine passing.behind index found below there fun newer => known ⟨?_, newer.2⟩
        -- a contact changed behind the pass is newer than every contact ahead of it
        have older := passing.ahead index next found contact below (le_refl _) there here newer
        unfold raised
        split
        · exact older
        · exact newer.1
      · rw [contactKey_contactFrame]
        intro key
        have same := distinct index next found contact there here (FixedBytes.ext (Option.some.inj key).symm)
        omega
    · obtain rfl := here.unique there
      exact held_concat_contact frames contact
  · rcases Nat.lt_succ_iff_lt_or_eq.mp below with below | rfl
    · exact passing.ahead index later found other below (by omega) there ahead (before_raise newer)
    · obtain rfl := here.unique there
      exact absurd newer.1 (UInt32.not_lt.mpr own)

theorem Passing.finish (passing : Passing h host frames next since recent) (all : h.contactCount host ≤ next) :
    Covers h host (frames ++ [endFrame recent]) := by
  intro cursor ended
  rw [lastEnd_concat_end] at ended
  obtain rfl := Option.some.inj ended
  refine ⟨passing.reached, fun index contact here bound => ?_⟩
  rw [held_concat (by simp [endFrame, contactKey, respCodeContact, respCodeEndOfContacts])]
  have listed := here.listed
  exact passing.behind index contact (by omega) here fun newer => absurd newer.1 (UInt32.not_lt.mpr bound)

theorem Passing.concat (passing : Passing h host frames next since recent) {frame : List UInt8}
    (notEnd : endValue frame = none) (notContact : contactKey frame = none) :
    Passing h host (frames ++ [frame]) next since recent := by
  refine ⟨?_, passing.reached, fun index contact below here known => ?_, passing.ahead⟩
  · rw [lastEnd_concat notEnd]
    exact passing.cursor
  · rw [held_concat (by simp [notContact])]
    exact passing.behind index contact below here known

theorem Passing.same (passing : Passing h before frames next since recent) (same : SameContacts h before after) :
    Passing h after frames next since recent :=
  ⟨passing.cursor, passing.reached.same same,
    fun index contact below here known => passing.behind index contact below (same.at.mp here) known,
    fun index later contact other below beyond here there newer =>
      passing.ahead index later contact other below beyond (same.at.mp here) (same.at.mp there) newer⟩

theorem Passing.revise (passing : Passing h before frames next since recent) (covers : Covers h before frames)
    (revises : Revises h before after index contact)
    (timely : next ≤ index → ∀ passed found, passed < next → At h before passed found →
      ¬ Newer since recent found.lastmod) :
    Passing h after frames next since recent := by
  have newest : Newer since recent contact.lastmod := by
    constructor
    · rcases passing.reached with rfl | ⟨place, high, listed, below⟩
      · exact UInt32.pos_iff_ne_zero.mpr revises.nonzero
      · exact UInt32.lt_of_le_of_lt below (revises.newest listed)
    · rw [passing.cursor]
      cases ended : lastEnd frames with
      | none => exact UInt32.pos_iff_ne_zero.mpr revises.nonzero
      | some cursor =>
        rcases (covers cursor ended).1 with rfl | ⟨place, high, listed, below⟩
        · exact UInt32.pos_iff_ne_zero.mpr revises.nonzero
        · exact UInt32.lt_of_le_of_lt below (revises.newest listed)
  refine ⟨passing.cursor, revises.reached passing.reached, fun place found below there known => ?_,
    fun place later found other below beyond there ahead newer => ?_⟩
  · rcases revises.cases there with ⟨-, rfl⟩ | ⟨-, old⟩
    · exact absurd newest known
    · exact passing.behind place found below old known
  · rcases revises.cases ahead with ⟨rfl, rfl⟩ | ⟨-, oldAhead⟩
    · rcases revises.cases there with ⟨same, -⟩ | ⟨-, old⟩
      · omega
      · exact absurd newer (timely beyond place found below old)
    · rcases revises.cases there with ⟨-, rfl⟩ | ⟨-, old⟩
      · exact revises.newest oldAhead
      · exact passing.ahead place later found other below beyond old oldAhead newer

end Coverage

section Stream

variable {σ : Type}

def Event.wroteTo (peer : Option Peer) : Event → Option (List UInt8)
  | .wrote receiver _ frame => if receiver = peer then some frame else none
  | _ => none

/-- The frames the client of the session has received. -/
def inbound (s : State σ) : List (List UInt8) := s.history.filterMap (Event.wroteTo s.request)

def outbound (s : State σ) : List (List UInt8) :=
  inbound s ++ (if s.current.pendingResponse = [] then [] else [s.current.pendingResponse])

structure Streams (s after : State σ) : Prop where
  request : after.request = s.request
  host : after.host = s.host
  iter : after.current.contactIter = s.current.contactIter
  since : after.current.iterFilterSince = s.current.iterFilterSince
  recent : after.current.mostRecentLastmod = s.current.mostRecentLastmod
  arrives : inbound after = inbound s ∨ inbound after = outbound after

variable {s : State σ} {frame : List UInt8}

theorem outbound_of_idle (idle : s.current.pendingResponse = []) : outbound s = inbound s := by
  rw [outbound, if_pos idle, List.append_nil]

theorem writeFrameToCurrentTransport_exact (s : State σ) (frame : List UInt8) :
    ∃ links, writeFrameToCurrentTransport s frame = (false, { s with links := links }) ∨
      ∃ generation, writeFrameToCurrentTransport s frame =
        (true, { s with links := links }.note (.wrote s.request generation frame)) := by
  have attempt (peer : Option Peer) (own : peer = s.request) (generation : UInt32) :
      attemptWrite s peer generation frame =
        (false, { s with links := { s.links with accepts := s.links.accepts.tail } }) ∨
      attemptWrite s peer generation frame =
        (true, { s with links := { s.links with accepts := s.links.accepts.tail } }.note
        (.wrote s.request generation frame)) := by
    unfold attemptWrite
    dsimp only
    rw [own]
    split
    · exact Or.inr rfl
    · exact Or.inl rfl
  unfold writeFrameToCurrentTransport
  split
  · rename_i peer request
    unfold transportsSendToResult
    split
    · rcases attempt (some peer) request.symm (transportsClientGeneration s peer) with refused | accepted
      · exact ⟨_, Or.inl refused⟩
      · exact ⟨_, Or.inr ⟨_, accepted⟩⟩
    · exact ⟨s.links, Or.inl rfl⟩
  · rename_i request
    split
    · rcases attempt none request.symm s.links.serialGeneration with refused | accepted
      · exact ⟨_, Or.inl refused⟩
      · exact ⟨_, Or.inr ⟨_, accepted⟩⟩
    · exact ⟨s.links, Or.inl rfl⟩

theorem inbound_note (generation : UInt32) :
    inbound (s.note (.wrote s.request generation frame)) = inbound s ++ [frame] := by
  simp [inbound, State.note, List.filterMap_append, Event.wroteTo]

theorem sendResponseFrame_streams (idle : s.current.pendingResponse = []) (valid : validFrame frame = true) :
    Streams s (sendResponseFrame s frame) ∧ outbound (sendResponseFrame s frame) = outbound s ++ [frame] := by
  have filled : frame ≠ [] := by
    rintro rfl
    cases valid
  unfold sendResponseFrame
  dsimp only
  have free : (s.logResponse frame).current.pendingResponse.isEmpty = true := List.isEmpty_iff.mpr idle
  rw [valid, free, Bool.and_self, if_pos rfl]
  obtain ⟨links, refused | ⟨generation, accepted⟩⟩ := writeFrameToCurrentTransport_exact (s.logResponse frame) frame
  · rw [refused]
    refine ⟨⟨rfl, rfl, rfl, rfl, rfl, Or.inl rfl⟩, ?_⟩
    rw [outbound_of_idle idle]
    exact congrArg (inbound s ++ ·) (if_neg filled)
  · rw [accepted]
    have written : inbound (({ s.logResponse frame with links := links }).note
        (.wrote (s.logResponse frame).request generation frame)) = inbound s ++ [frame] :=
      inbound_note generation
    have drained : outbound (({ s.logResponse frame with links := links }).note
        (.wrote (s.logResponse frame).request generation frame)) = inbound s ++ [frame] := by
      rw [outbound_of_idle (by exact idle), written]
    exact ⟨⟨rfl, rfl, rfl, rfl, rfl, Or.inr (written.trans drained.symm)⟩, by rw [drained, outbound_of_idle idle]⟩

theorem flushPendingResponse_streams (s : State σ) :
    Streams s (flushPendingResponse s).2 ∧ outbound (flushPendingResponse s).2 = outbound s ∧
      ((flushPendingResponse s).1 = true → (flushPendingResponse s).2.current.pendingResponse = []) := by
  unfold flushPendingResponse
  split
  · rename_i idle
    exact ⟨⟨rfl, rfl, rfl, rfl, rfl, Or.inl rfl⟩, rfl, fun _ => List.isEmpty_iff.mp idle⟩
  rename_i pending
  split
  · exact ⟨⟨rfl, rfl, rfl, rfl, rfl, Or.inl rfl⟩, rfl, nofun⟩
  obtain ⟨links, refused | ⟨generation, accepted⟩⟩ :=
    writeFrameToCurrentTransport_exact s s.current.pendingResponse
  · rw [refused]
    exact ⟨⟨rfl, rfl, rfl, rfl, rfl, Or.inl rfl⟩, rfl, nofun⟩
  · rw [accepted]
    have same : outbound s = inbound s ++ [s.current.pendingResponse] := by
      rw [outbound, if_neg (by simpa using pending)]
    have written :
        inbound ((({ s with links := links }).note (.wrote s.request generation s.current.pendingResponse)).update
        fun c => { c with pendingResponse := [] }) = outbound s :=
      (inbound_note generation).trans same.symm
    have drained :
        outbound ((({ s with links := links }).note (.wrote s.request generation s.current.pendingResponse)).update
        fun c => { c with pendingResponse := [] }) = outbound s :=
      (outbound_of_idle rfl).trans written
    exact ⟨⟨rfl, rfl, rfl, rfl, rfl, Or.inr (written.trans drained.symm)⟩, drained, fun _ => rfl⟩

end Stream

section Tracking

variable {σ : Type} (h : CompanionBridgeHost σ)

/-- The calls of the bridge that change the device by themselves leave the contacts alone. -/
structure KeepsContacts : Prop where
  cancelBinaryReq : ∀ tag host, SameContacts h host (h.cancelBinaryReq tag host)
  cancelBinaryReqs : ∀ host, SameContacts h host (h.cancelBinaryReqs host)

structure Tracking (s : State σ) : Prop where
  keys : DistinctKeys h s.host
  received : Covers h s.host (inbound s)
  sent : Covers h s.host (outbound s)
  pass : ∀ next, s.current.contactIter = some next →
    Passing h s.host (outbound s) next s.current.iterFilterSince s.current.mostRecentLastmod

variable {h} {s after : State σ}

theorem Streams.covers (streams : Streams s after) (keys : DistinctKeys h s.host)
    (received : Covers h s.host (inbound s))
    (sent : Covers h s.host (outbound after)) :
    DistinctKeys h after.host ∧ Covers h after.host (inbound after) ∧ Covers h after.host (outbound after) := by
  rw [streams.host]
  refine ⟨keys, ?_, sent⟩
  rcases streams.arrives with kept | arrived
  · rw [kept]
    exact received
  · rw [arrived]
    exact sent

theorem Streams.tracking (streams : Streams s after) (keys : DistinctKeys h s.host)
    (received : Covers h s.host (inbound s)) (sent : Covers h s.host (outbound after))
    (pass : ∀ next, s.current.contactIter = some next →
      Passing h s.host (outbound after) next s.current.iterFilterSince s.current.mostRecentLastmod) :
    Tracking h after := by
  obtain ⟨distinct, arrived, underway⟩ := streams.covers keys received sent
  refine ⟨distinct, arrived, underway, fun next running => ?_⟩
  rw [streams.iter] at running
  rw [streams.host, streams.since, streams.recent]
  exact pass next running

theorem Tracking.flush (tracking : Tracking h s) : Tracking h (flushPendingResponse s).2 := by
  obtain ⟨streams, kept, -⟩ := flushPendingResponse_streams s
  exact streams.tracking tracking.keys tracking.received (by rw [kept]; exact tracking.sent)
    (by rw [kept]; exact tracking.pass)

theorem Tracking.respond (tracking : Tracking h s) (idle : s.current.pendingResponse = []) {frame : List UInt8}
    (valid : validFrame frame = true) (notEnd : endValue frame = none) (notContact : contactKey frame = none) :
    Tracking h (sendResponseFrame s frame) := by
  obtain ⟨streams, emitted⟩ := sendResponseFrame_streams idle valid
  refine streams.tracking tracking.keys tracking.received ?_ ?_
  · rw [emitted]
    exact tracking.sent.concat notEnd notContact
  · rw [emitted]
    exact fun next running => (tracking.pass next running).concat notEnd notContact

theorem Tracking.same (tracking : Tracking h s) {host : σ} (same : SameContacts h s.host host) :
    Tracking h { s with host := host } := by
  refine ⟨?_, tracking.received.same same, tracking.sent.same same,
    fun next running => (tracking.pass next running).same same⟩
  intro i j a b first second key
  exact tracking.keys i j a b (same.at.mp first) (same.at.mp second) key

theorem Tracking.cancelEach (keeps : KeepsContacts h) (requests : List PendingBinaryRequest) (tracking : Tracking h s) :
    Tracking h (requests.foldl (fun s request => cancelBinaryReq h s request.tag) s) := by
  induction requests generalizing s with
  | nil => exact tracking
  | cons request rest ih =>
    have cancelled := tracking.same (keeps.cancelBinaryReq request.tag s.host)
    exact ih ⟨cancelled.keys, cancelled.received, cancelled.sent, cancelled.pass⟩

theorem Tracking.expire (keeps : KeepsContacts h) (tracking : Tracking h s) : Tracking h (expirePendingBinary h s) :=
  Tracking.cancelEach keeps _ ⟨tracking.keys, tracking.received, tracking.sent, tracking.pass⟩

theorem Tracking.refresh (keeps : KeepsContacts h) (tracking : Tracking h s) :
    Tracking h (refreshConnectionSession h s) := by
  unfold refreshConnectionSession
  dsimp only
  split
  · have cancelled := tracking.same (keeps.cancelBinaryReqs s.host)
    exact ⟨cancelled.keys, cancelled.received, by rw [outbound_of_idle rfl]; exact cancelled.received, nofun⟩
  · exact ⟨tracking.keys, tracking.received, tracking.sent, tracking.pass⟩

theorem validFrame_contactFrame (contact : CompanionContact) : validFrame (contactFrame contact) = true := by
  have name : (strzcpy contact.name.chars 32).length = 32 := by
    rw [strzcpy, List.length_append, List.length_replicate, List.length_take]
    omega
  simp [validFrame, contactFrame, contactFields, contact.pubKey.length_eq, contact.outPath.length_eq, name, word,
    pubKeySize, pathSize, maxFrameSize]

theorem nextContact_passing {host : σ} {frames : List (List UInt8)} {since recent : UInt32}
    (covers : Covers h host frames) (remaining index : Nat) (rest : h.contactCount host - index = remaining)
    (passing : Passing h host frames index since recent) :
    (∃ contact place, nextContact h host since remaining index = some (contact, place + 1) ∧ At h host place contact ∧
      Passing h host frames place since recent) ∨
    (nextContact h host since remaining index = none ∧ ∃ next, h.contactCount host ≤ next ∧
      Passing h host frames next since recent) := by
  induction remaining generalizing index with
  | zero => exact Or.inr ⟨rfl, index, by omega, passing⟩
  | succ remaining ih =>
    unfold nextContact
    cases found : h.getContact index host with
    | none =>
      refine ih (index + 1) (by omega) (passing.skip covers fun contact here => ?_)
      rw [here.found] at found
      cases found
    | some contact =>
      dsimp only
      split
      · rename_i old
        refine ih (index + 1) (by omega) (passing.skip covers fun other here => ?_)
        obtain rfl := Option.some.inj (found.symm.trans here.found)
        exact old
      · exact Or.inl ⟨contact, index, rfl, ⟨by omega, found⟩, passing⟩

theorem sendContact_tracking (tracking : Tracking h s) (idle : s.current.pendingResponse = []) {index : Nat}
    (running : s.current.contactIter = some index) : Tracking h (sendContact h s index) := by
  have passing := tracking.pass index running
  unfold sendContact
  rcases nextContact_passing tracking.sent _ index rfl passing
    with ⟨contact, place, found, here, reached⟩ | ⟨none, next, all, reached⟩
  · rw [found]
    dsimp only
    obtain ⟨streams, emitted⟩ := @sendResponseFrame_streams σ ((s.update fun c => { c with
      contactIter := some (place + 1)
      mostRecentLastmod := raised c.mostRecentLastmod contact.lastmod }).logWrite 0 (contactFrame contact).length)
      (contactFrame contact) idle (validFrame_contactFrame contact)
    refine streams.tracking tracking.keys tracking.received ?_ ?_
    · rw [emitted]
      exact tracking.sent.send tracking.keys here
    · rw [emitted]
      rintro next ⟨⟩
      exact reached.send tracking.keys here
  · rw [none]
    dsimp only
    obtain ⟨streams, emitted⟩ := @sendResponseFrame_streams σ
      (s.logWrite 0 (endFrame s.current.mostRecentLastmod).length) (endFrame s.current.mostRecentLastmod) idle rfl
    obtain ⟨keys, received, sent⟩ := streams.covers tracking.keys tracking.received
      (by rw [emitted]; exact reached.finish all)
    exact ⟨keys, received, sent, nofun⟩

theorem serviceCurrentSession_tracking (keeps : KeepsContacts h) (tracking : Tracking h s) :
    Tracking h (serviceCurrentSession h s) := by
  have flushed := (tracking.expire keeps).flush
  have idle := (flushPendingResponse_streams (expirePendingBinary h s)).2.2
  unfold serviceCurrentSession
  generalize flushPendingResponse (expirePendingBinary h s) = outcome at flushed idle
  obtain ⟨done, middle⟩ := outcome
  cases done with
  | false => exact flushed
  | true =>
    dsimp only
    split
    · exact flushed
    · rename_i index running
      exact iteInduction (motive := fun after => Tracking h after) (fun _ => flushed)
        fun _ => sendContact_tracking flushed (idle rfl) running

end Tracking

section Turns

variable {σ : Type} (h : CompanionBridgeHost σ) (build : Build)

def requestedSince (frame : List UInt8) : UInt32 :=
  if frame.length ≥ 5 then UInt32.ofNat (leNumber ((frame.drop 1).take 4)) else 0

/-- What happens to the session of a client that synchronizes its contacts: changes of its link and of
    the device, its requests, and the parts of the bridge's rounds. -/
inductive Turn (σ : Type) where
  | relink (links : Links)
  | device (host : σ)
  | take
  | refresh
  | flush
  | request (frame : List UInt8)
  | service

def turn (s : State σ) : Turn σ → State σ
  | .relink links => { s with links := links }
  | .device host => { s with host := host }
  | .take => (takeInbox s).2
  | .refresh => refreshConnectionSession h s
  | .flush => (flushPendingResponse (expirePendingBinary h s)).2
  | .request frame => (handleFrame h build s frame).2
  | .service => serviceCurrentSession h s

/-- A device adds or updates at most one contact at a time. The client asks for what is newer than the
    last END_OF_CONTACTS it has received. -/
def Assumed (s : State σ) : Turn σ → Prop
  | .device host => SameContacts h s.host host ∨ ∃ index contact, Revises h s.host host index contact
  | .request frame => frame.head? = some 4 ∧ requestedSince frame = (lastEnd (inbound s)).getD 0
  | _ => True

/-- No contact ahead of a pass changes once one behind it has. -/
def Timely (s : State σ) : Turn σ → Prop
  | .device host => ∀ index contact next, Revises h s.host host index contact → s.current.contactIter = some next →
      next ≤ index → ∀ passed found, passed < next → At h s.host passed found →
        ¬ Newer s.current.iterFilterSince s.current.mostRecentLastmod found.lastmod
  | _ => True

variable {h build} {s : State σ}

theorem getContacts_run {frame : List UInt8} {work : Work σ} :
    ∃ trace, (sessionCommand h build frame s.current .getContacts).run work =
      (if s.current.contactIter.isSome then answer s.current (errFrame .badState)
        else answer
          { s.current with iterFilterSince := requestedSince frame, contactIter := some 0, mostRecentLastmod := 0 }
          (2 :: word (UInt32.ofNat (h.contactCount work.host))), { work with trace := trace }) := by
  have since (long : frame.length ≥ 5) : ((cmdFrame frame).drop 1).take 4 = (frame.drop 1).take 4 := by
    rw [cmdFrame, List.drop_append_of_le_length (by
      omega), List.take_append_of_le_length (by rw [List.length_drop]; omega)]
  unfold sessionCommand getContacts
  dsimp only
  split
  · exact ⟨_, rfl⟩
  · unfold requestedSince
    split
    · rename_i long
      rw [← since long]
      exact ⟨_, rfl⟩
    · exact ⟨_, rfl⟩

theorem Tracking.noted (tracking : Tracking h s) (peer : Option Peer) (generation : UInt32) (frame : List UInt8) :
    Tracking h (s.note (.received peer generation frame)) ∧
      inbound (s.note (.received peer generation frame)) = inbound s := by
  have kept : inbound (s.note (.received peer generation frame)) = inbound s := by
    simp [inbound, State.note, List.filterMap_append, Event.wroteTo]
  have whole : outbound (s.note (.received peer generation frame)) = outbound s := by
    rw [outbound, kept]
    rfl
  refine ⟨⟨tracking.keys, ?_, ?_, fun next running => ?_⟩, kept⟩
  · rw [kept]
    exact tracking.received
  · rw [whole]
    exact tracking.sent
  · rw [whole]
    exact tracking.pass next running

theorem dispatchCommand_getContacts {frame : List UInt8} (known : commandOf (frame.headD 0) = some .getContacts) :
    ∃ trace, dispatchCommand h build s frame =
      if s.current.contactIter.isSome then sendResponseFrame { s with trace := trace } (errFrame .badState)
      else sendResponseFrame
        { s with
          current := { s.current with
            iterFilterSince := requestedSince frame, contactIter := some 0, mostRecentLastmod := 0 }
          trace := trace } (2 :: word (UInt32.ofNat (h.contactCount s.host))) := by
  unfold dispatchCommand
  dsimp only
  rw [known]
  dsimp only
  rw [if_neg (by simp [commandMinimumLength]), if_neg (by decide)]
  unfold runCommand
  dsimp only
  obtain ⟨trace, run⟩ := @getContacts_run σ h build s frame
    ⟨s.host, !s.current.pendingResponse.isEmpty, { s.trace with reads := s.trace.reads ++ [(0, 1)] }⟩
  rw [run]
  refine ⟨trace, ?_⟩
  by_cases running : s.current.contactIter.isSome = true
  · rw [if_pos running, if_pos running]
    rfl
  · rw [if_neg running, if_neg running]
    rfl

theorem dispatchCommand_tracking (tracking : Tracking h s) (idle : s.current.pendingResponse = [])
    {frame : List UInt8} (command : frame.head? = some 4)
    (since : requestedSince frame = (lastEnd (inbound s)).getD 0) : Tracking h (dispatchCommand h build s frame) := by
  have known : commandOf (frame.headD 0) = some .getContacts := by
    rw [List.headD_eq_head?_getD, command]
    rfl
  obtain ⟨trace, dispatched⟩ := @dispatchCommand_getContacts σ h build s frame known
  rw [dispatched]
  split
  · have kept : Tracking h { s with trace := trace } := ⟨tracking.keys, tracking.received, tracking.sent, tracking.pass⟩
    exact kept.respond idle (show validFrame (errFrame .badState) = true from rfl) rfl rfl
  · have begun : Tracking h { s with
        current := { s.current with
          iterFilterSince := requestedSince frame, contactIter := some 0, mostRecentLastmod := 0 }
        trace := trace } := by
      refine ⟨tracking.keys, tracking.received, tracking.sent, ?_⟩
      rintro next ⟨⟩
      have start := @passing_start σ h s.host (outbound s)
      rw [outbound_of_idle idle, ← since] at start
      rw [outbound_of_idle (by exact idle)]
      exact start
    exact begun.respond idle (show validFrame (2 :: word (UInt32.ofNat (h.contactCount s.host))) =
      true from rfl) rfl rfl

theorem handleFrame_tracking (keeps : KeepsContacts h) (tracking : Tracking h s) {frame : List UInt8}
    (command : frame.head? = some 4) (since : requestedSince frame = (lastEnd (inbound s)).getD 0) :
    Tracking h (handleFrame h build s frame).2 := by
  unfold handleFrame
  split
  · exact tracking
  obtain ⟨noted, kept⟩ := tracking.noted s.request (currentGeneration s) frame
  have refreshed := noted.refresh keeps
  obtain ⟨host, trace, worked⟩ := refreshConnectionSession_worked h
    (s.note (.received s.request (currentGeneration s) frame))
  have same : inbound (refreshConnectionSession h (s.note (.received s.request (currentGeneration s) frame))) =
      inbound s := by
    rw [worked, ← kept]
    rfl
  dsimp only
  split
  · exact refreshed
  rename_i idle
  obtain ⟨later, log, expired⟩ := expirePendingBinary_worked h
    (refreshConnectionSession h (s.note (.received s.request (currentGeneration s) frame)))
  refine dispatchCommand_tracking (refreshed.expire keeps) ?_ command ?_
  · have free : (refreshConnectionSession h
        (s.note (.received s.request (currentGeneration s) frame))).current.pendingResponse = [] := by simpa using idle
    rw [expired]
    exact free
  · rw [since, ← same, expired]
    rfl

theorem turn_tracking (keeps : KeepsContacts h) (tracking : Tracking h s) (move : Turn σ) (assumed : Assumed h s move)
    (timely : Timely h s move) : Tracking h (turn h build s move) := by
  cases move with
  | relink links => exact ⟨tracking.keys, tracking.received, tracking.sent, tracking.pass⟩
  | device host =>
    rcases assumed with same | ⟨index, contact, revises⟩
    · exact tracking.same same
    · refine ⟨revises.distinct tracking.keys, tracking.received.revise revises, tracking.sent.revise revises, ?_⟩
      intro next running
      exact (tracking.pass next running).revise tracking.sent revises (timely index contact next revises running)
  | take => exact ⟨tracking.keys, tracking.received, tracking.sent, tracking.pass⟩
  | refresh => exact tracking.refresh keeps
  | flush => exact (tracking.expire keeps).flush
  | request frame => exact handleFrame_tracking keeps tracking assumed.1 assumed.2
  | service => exact serviceCurrentSession_tracking keeps tracking

/-- In every run that starts before the client has received anything, and in which no contact ahead of
    a pass changes once one behind it has, the client holds what its cursor says. -/
theorem contact_sync_misses_nothing (keeps : KeepsContacts h) (keys : DistinctKeys h s.host)
    (idle : s.current.contactIter = none) (drained : s.current.pendingResponse = []) (new : inbound s = [])
    (moves : List (Turn σ))
    (meets : Runs.Along (turn h build) (fun s move => Assumed h s move ∧ Timely h s move) s moves) :
    Covers h (Runs.run (turn h build) s moves).host (inbound (Runs.run (turn h build) s moves)) := by
  have start : Covers h s.host (inbound s) := by
    rw [new]
    exact nofun
  have initial : Tracking h s := by
    refine ⟨keys, start, ?_, fun next running => ?_⟩
    · rw [outbound_of_idle drained]
      exact start
    · rw [idle] at running
      cases running
  exact (Runs.run_invariant_along (Tracking h) initial
    (fun _ move tracking condition => turn_tracking keeps tracking move condition.1 condition.2) meets).received

theorem loop_turns (s : State σ) : ∃ moves, loop h build s = Runs.run (turn h build) s moves := by
  unfold loop
  dsimp only
  split
  · exact ⟨[.refresh], rfl⟩
  · generalize flushed : flushPendingResponse (expirePendingBinary h (refreshConnectionSession h s)) = outcome
    obtain ⟨done, middle⟩ := outcome
    have same : Runs.run (turn h build) s [.refresh, .flush] = middle := congrArg Prod.snd flushed
    cases done with
    | false => exact ⟨_, same.symm⟩
    | true =>
      dsimp only [takeInbox]
      cases middle.inbox.head? with
      | none => exact ⟨[.refresh, .flush] ++ [.take, .service], by rw [Runs.run_append, same]; rfl⟩
      | some frame =>
        exact ⟨[.refresh, .flush] ++ [.take, .request frame, .service], by rw [Runs.run_append, same]; rfl⟩

theorem withSession_turns (s : State σ) (index : Nat) (peer : Peer) :
    withSession s index peer (fun s => serviceCurrentSession h (refreshConnectionSession h s)) =
      withSession s index peer (fun s => Runs.run (turn h build) s [.refresh, .service]) := rfl

end Turns

section Race

def contactRevision (key : UInt8) (lastmod : UInt32) : CompanionContact where
  pubKey := ⟨List.replicate pubKeySize key, rfl⟩
  type := 1
  flags := 0
  outPathLen := 0
  outPath := ⟨List.replicate pathSize 0, zeros_length pathSize⟩
  name := ⟨[], noChars_fit32, noChars_nonzero⟩
  lastAdvertTimestamp := 0
  lastmod := lastmod
  gpsLat := 0
  gpsLon := 0

def twoContacts (first second : UInt32) : Device :=
  { Device.blank with contacts := [contactRevision 1 first, contactRevision 2 second] }

theorem Device.keepsContacts : KeepsContacts Device.host :=
  ⟨fun _ _ => ⟨rfl, fun _ => rfl⟩, fun _ => ⟨rfl, fun _ => rfl⟩⟩

theorem at_twoContacts (first second : UInt32) {device : Device} (same : device = twoContacts first second)
    {index : Nat}
    {contact : CompanionContact} (here : At Device.host device index contact) :
    (index = 0 ∧ contact = contactRevision 1 first) ∨ (index = 1 ∧ contact = contactRevision 2 second) := by
  subst same
  have listed : index < 2 := here.listed
  have found := here.found
  interval_cases index
  · exact Or.inl ⟨rfl, (Option.some.inj found).symm⟩
  · exact Or.inr ⟨rfl, (Option.some.inj found).symm⟩

theorem assumed_first {s : State Device} (first second revision : UInt32) (host : s.host = twoContacts first second)
    (next : nextContactRevision 0 (highWater Device.host (twoContacts first second)) = some revision) :
    Assumed Device.host s (.device (twoContacts revision second)) := by
  refine Or.inr ⟨0, contactRevision 1 revision, ?_⟩
  rw [host]
  refine ⟨rfl, rfl, fun other listed apart => ?_,
    Or.inl ⟨contactRevision 1 first, ⟨Nat.zero_lt_two, rfl⟩, rfl⟩, 0, next⟩
  have bound : other < 2 := listed
  interval_cases other
  · exact absurd rfl apart
  · rfl

theorem assumed_second {s : State Device} (first second revision : UInt32) (host : s.host = twoContacts first second)
    (next : nextContactRevision 0 (highWater Device.host (twoContacts first second)) = some revision) :
    Assumed Device.host s (.device (twoContacts first revision)) := by
  refine Or.inr ⟨1, contactRevision 2 revision, ?_⟩
  rw [host]
  refine ⟨rfl, rfl, fun other listed apart => ?_,
    Or.inl ⟨contactRevision 2 second, ⟨Nat.one_lt_two, rfl⟩, rfl⟩, 0, next⟩
  have bound : other < 2 := listed
  interval_cases other
  · rfl
  · exact absurd rfl apart

def contactsStart : State Device :=
  State.boot false (twoContacts 1 2) (MessageStore.Store.initial none) Device.paired

theorem contactsStart_keys : DistinctKeys Device.host contactsStart.host := by
  intro i j a b first second same
  rcases at_twoContacts 1 2 rfl first with ⟨rfl, rfl⟩ | ⟨rfl, rfl⟩
  · rcases at_twoContacts 1 2 rfl second with ⟨rfl, rfl⟩ | ⟨rfl, rfl⟩
    · rfl
    · exact absurd same (by decide)
  · rcases at_twoContacts 1 2 rfl second with ⟨rfl, rfl⟩ | ⟨rfl, rfl⟩
    · exact absurd same (by decide)
    · rfl

def getContactsFrame : List UInt8 := [4, 0, 0, 0, 0]

/-- The second contact changes before the pass has reached it. -/
def changeAhead : List (Turn Device) :=
  [.refresh, .request getContactsFrame, .service, .device (twoContacts 1 3), .service, .service]

theorem changeAhead_covered :
    Covers Device.host (Runs.run (turn Device.host Device.build) contactsStart changeAhead).host
    (inbound (Runs.run (turn Device.host Device.build) contactsStart changeAhead)) := by
  refine contact_sync_misses_nothing Device.keepsContacts contactsStart_keys rfl rfl rfl changeAhead ?_
  refine ⟨⟨trivial, trivial⟩, ⟨⟨rfl, by decide +kernel⟩, trivial⟩, ⟨trivial, trivial⟩,
    ⟨assumed_second 1 2 3 (by decide +kernel) (by decide +kernel), ?_⟩, ⟨trivial, trivial⟩, ⟨trivial, trivial⟩, trivial⟩
  rintro index contact next - running - passed found below here ⟨newer, -⟩
  rcases at_twoContacts 1 2 (by decide +kernel) here with ⟨rfl, rfl⟩ | ⟨rfl, rfl⟩
  · exact absurd newer (by decide +kernel)
  · have one : next = 1 := Option.some.inj (running.symm.trans (by decide +kernel))
    omega

/-- The first contact changes behind the pass, then the second one ahead of it. -/
def changeBehindAndAhead : List (Turn Device) :=
  [.refresh, .request getContactsFrame, .service, .device (twoContacts 3 2), .device (twoContacts 3 4),
    .service, .service]

theorem changeBehindAndAhead_missed :
    Runs.Along (turn Device.host Device.build) (Assumed Device.host) contactsStart changeBehindAndAhead ∧
      ¬ Covers Device.host (Runs.run (turn Device.host Device.build) contactsStart changeBehindAndAhead).host
        (inbound (Runs.run (turn Device.host Device.build) contactsStart changeBehindAndAhead)) := by
  constructor
  · exact ⟨trivial, ⟨rfl, by decide +kernel⟩, trivial, assumed_first 1 2 3 (by decide +kernel) (by decide +kernel),
      assumed_second 3 2 4 (by decide +kernel) (by decide +kernel), trivial, trivial, trivial⟩
  · intro covers
    have stale := (covers 4 (by decide +kernel)).2 0 (contactRevision 1 3) ⟨by decide +kernel, by decide +kernel⟩
      (by decide)
    exact absurd stale (by decide +kernel)

end Race

end SigurdOS.Companion
