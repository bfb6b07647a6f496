import Mathlib.Data.List.Nodup
import SigurdOS.Library.Interrupted
import SigurdOS.Library.Runs

namespace SigurdOS.Hal

open Interrupted

def maxSavedPws : Nat := 8

abbrev Text := List UInt8

structure PasswordStore where
  names : Nat → Option Text
  passwords : Nat → Option Text
  count : Option UInt8

inductive PasswordWrite where
  | putName (slot : Nat) (text : Text)
  | putPassword (slot : Nat) (text : Text)
  | putCount (value : UInt8)
  | removeName (slot : Nat)
  | removePassword (slot : Nat)
  | clear

namespace PasswordStore

def empty : PasswordStore := ⟨fun _ => none, fun _ => none, none⟩

def apply : PasswordWrite → PasswordStore → PasswordStore
  | .putName slot text, store => { store with names := Function.update store.names slot (some text) }
  | .putPassword slot text, store => { store with passwords := Function.update store.passwords slot (some text) }
  | .putCount value, store => { store with count := some value }
  | .removeName slot, store => { store with names := Function.update store.names slot none }
  | .removePassword slot, store => { store with passwords := Function.update store.passwords slot none }
  | .clear, _ => empty

def entryCount (store : PasswordStore) : Nat := min (store.count.getD 0).toNat maxSavedPws

end PasswordStore

/-- `Preferences::getString`: the length with the terminator, 0 when there is no value or no room for it. -/
def getString (value : Option Text) (maxLen : Nat) : Nat × Text :=
  match value with
  | none => (0, [])
  | some text => if text.length + 1 > maxLen then (0, []) else (text.length + 1, text)

abbrev PasswordNvs := Medium PasswordStore

namespace PasswordNvs

/-- `Preferences::putString`: the length without the terminator, 0 on failure. -/
def putString (nvs : PasswordNvs) (write : Text → PasswordWrite) (text : Text) : Nat × PasswordNvs :=
  match nvs.write PasswordStore.apply (write text) with
  | (true, nvs) => (text.length, nvs)
  | (false, nvs) => (0, nvs)

def putUChar (nvs : PasswordNvs) (value : UInt8) : Nat × PasswordNvs :=
  match nvs.write PasswordStore.apply (.putCount value) with
  | (true, nvs) => (1, nvs)
  | (false, nvs) => (0, nvs)

/-- `Preferences::remove`, which fails on a key that is not there. -/
def remove (nvs : PasswordNvs) (value : Option Text) (write : PasswordWrite) : Bool × PasswordNvs :=
  match value with
  | none => (false, nvs)
  | some _ => nvs.write PasswordStore.apply write

end PasswordNvs

def repeaterPasswordFitsSchema (name password : Text) : Bool :=
  0 < name.length && name.length < 32 && 0 < password.length && password.length < 64

def slotOf (store : PasswordStore) (name : Text) : Option Nat :=
  (List.range store.entryCount).find? fun slot =>
    (getString (store.names slot) 32).1 > 0 && (getString (store.names slot) 32).2 = name

def putEntry (nvs : PasswordNvs) (slot count : Nat) (name password : Text) : Bool × PasswordNvs :=
  match nvs.putString (.putName slot) name with
  | (written, nvs) =>
    if written ≠ name.length then (false, nvs)
    else
      match nvs.putString (.putPassword slot) password with
      | (written, nvs) =>
        if written ≠ password.length then (false, nvs)
        else
          match nvs.putUChar (UInt8.ofNat count) with
          | (written, nvs) => if written ≠ 1 then (false, nvs) else (true, nvs)

def saveRepeaterPassword (nvs : PasswordNvs) (name password : Text) : Bool × PasswordNvs :=
  if repeaterPasswordFitsSchema name password = false then (false, nvs)
  else
    let count := nvs.state.entryCount
    match slotOf nvs.state name with
    | some slot => putEntry nvs slot count name password
    | none => if count < maxSavedPws then putEntry nvs count (count + 1) name password else (false, nvs)

def loadRepeaterPassword (store : PasswordStore) (name : Text) (maxLen : Nat) : Option Text :=
  if name = [] ∨ maxLen = 0 then none
  else
    match slotOf store name with
    | some slot =>
      let (length, password) := getString (store.passwords slot) maxLen
      if length > 0 then some password else none
    | none => none

/-- The last entry copied into the slot, which is refused when a put does not report the length with the
terminator. -/
def moveLast (nvs : PasswordNvs) (slot last : Nat) : Bool × PasswordNvs :=
  let (movedNameLen, movedName) := getString (nvs.state.names last) 32
  let (movedPwLen, movedPw) := getString (nvs.state.passwords last) 64
  if movedNameLen = 0 ∨ movedNameLen ≥ 32 ∨ movedPwLen = 0 ∨ movedPwLen ≥ 64 then (false, nvs)
  else
    match nvs.putString (.putName slot) movedName with
    | (written, nvs) =>
      if written ≠ movedNameLen then (false, nvs)
      else
        match nvs.putString (.putPassword slot) movedPw with
        | (written, nvs) => if written ≠ movedPwLen then (false, nvs) else (true, nvs)

def dropLast (nvs : PasswordNvs) (last : Nat) : Bool × PasswordNvs :=
  match nvs.putUChar (UInt8.ofNat last) with
  | (written, nvs) =>
    if written ≠ 1 then (false, nvs)
    else
      match nvs.remove (nvs.state.names last) (.removeName last) with
      | (false, nvs) => (false, nvs)
      | (true, nvs) => nvs.remove (nvs.state.passwords last) (.removePassword last)

def removeRepeaterPassword (nvs : PasswordNvs) (name : Text) : Bool × PasswordNvs :=
  if name = [] ∨ name.length ≥ 32 then (false, nvs)
  else
    match slotOf nvs.state name with
    | none => (false, nvs)
    | some slot =>
      let last := nvs.state.entryCount - 1
      if slot ≠ last then
        match moveLast nvs slot last with
        | (false, nvs) => (false, nvs)
        | (true, nvs) => dropLast nvs last
      else dropLast nvs last

def clearRepeaterPasswords (nvs : PasswordNvs) : Bool × PasswordNvs := nvs.write PasswordStore.apply .clear

inductive PasswordCall where
  | save (name password : Text)
  | remove (name : Text)
  | clear

/-- What happens to a call: one of its writes fails and has no effect, or the power is cut after some of them. No call
goes on after a write that failed. -/
inductive PasswordFault where
  | fine
  | fails (before : Nat)
  | cut (after : Nat)
  deriving DecidableEq

def PasswordFault.left : PasswordFault → Option Nat
  | .fine => none
  | .fails before => some before
  | .cut after => some after

def runCall (nvs : PasswordNvs) : PasswordCall → Bool × PasswordNvs
  | .save name password => saveRepeaterPassword nvs name password
  | .remove name => removeRepeaterPassword nvs name
  | .clear => clearRepeaterPasswords nvs

/-- What the call returned, if it came to that, and what it left behind. -/
def performCall (store : PasswordStore) (event : PasswordCall × PasswordFault) : Option Bool × PasswordStore :=
  let outcome := runCall ⟨store, event.2.left⟩ event.1
  match event.2 with
  | .cut _ => (none, outcome.2.state)
  | _ => (some outcome.1, outcome.2.state)

def passwordStep (store : PasswordStore) (event : PasswordCall × PasswordFault) : PasswordStore :=
  (performCall store event).2

section Tables

variable {store after : PasswordStore} {passed : List (Text × Text)} {name password : Text} {slot : Nat}

/-- Every counted slot holds a name and a password that were saved together, and no name has two slots. -/
structure Paired (passed : List (Text × Text)) (store : PasswordStore) : Prop where
  entries : ∀ slot < store.entryCount, ∃ name password, store.names slot = some name ∧
    store.passwords slot = some password ∧ repeaterPasswordFitsSchema name password = true ∧ (name, password) ∈ passed
  distinct : ∀ one < store.entryCount, ∀ other < store.entryCount, store.names one = store.names other → one = other

theorem Paired.empty : Paired passed .empty := ⟨nofun, nofun⟩

theorem Paired.mono {more : List (Text × Text)} (sound : Paired passed store) (more_of : passed ⊆ more) :
    Paired more store where
  entries slot counted := by
    obtain ⟨name, password, named, secret, fits, saved⟩ := sound.entries slot counted
    exact ⟨name, password, named, secret, fits, more_of saved⟩
  distinct := sound.distinct

theorem fits_lengths (fits : repeaterPasswordFitsSchema name password = true) :
    0 < name.length ∧ name.length < 32 ∧ 0 < password.length ∧ password.length < 64 := by
  simp only [repeaterPasswordFitsSchema, Bool.and_eq_true, decide_eq_true_eq] at fits
  exact ⟨fits.1.1.1, fits.1.1.2, fits.1.2, fits.2⟩

theorem getString_of_lt {text : Text} {maxLen : Nat} (room : text.length < maxLen) :
    getString (some text) maxLen = (text.length + 1, text) := by
  simp only [getString]
  rw [if_neg (by omega)]

theorem Paired.slotOf_eq_some (sound : Paired passed store) :
    slotOf store name = some slot ↔ slot < store.entryCount ∧ store.names slot = some name := by
  have named (index : Nat) (counted : index < store.entryCount) :
      ((getString (store.names index) 32).1 > 0 && (getString (store.names index) 32).2 = name) = true ↔
        store.names index = some name := by
    obtain ⟨stored, password, known, -, fits, -⟩ := sound.entries index counted
    rw [known, getString_of_lt (fits_lengths fits).2.1]
    simp
  rw [slotOf, List.find?_range_eq_some]
  constructor
  · rintro ⟨matching, counted, -⟩
    rw [List.mem_range] at counted
    exact ⟨counted, (named slot counted).mp matching⟩
  · rintro ⟨counted, known⟩
    refine ⟨(named slot counted).mpr known, List.mem_range.mpr counted, fun earlier before => ?_⟩
    rw [Bool.not_eq_true', ← Bool.not_eq_true, named earlier (Nat.lt_trans before counted)]
    intro same
    have equal := sound.distinct earlier (Nat.lt_trans before counted) slot counted (same.trans known.symm)
    omega

theorem Paired.slotOf_eq_none (sound : Paired passed store) :
    slotOf store name = none ↔ ∀ slot < store.entryCount, store.names slot ≠ some name := by
  constructor
  · intro absent slot counted known
    rw [sound.slotOf_eq_some.mpr ⟨counted, known⟩] at absent
    cases absent
  · intro absent
    cases found : slotOf store name with
    | none => rfl
    | some slot =>
      obtain ⟨counted, known⟩ := sound.slotOf_eq_some.mp found
      exact absurd known (absent slot counted)

theorem Paired.load_paired {maxLen : Nat} (sound : Paired passed store)
    (loaded : loadRepeaterPassword store name maxLen = some password) :
    ∃ slot < store.entryCount, store.names slot = some name ∧ store.passwords slot = some password := by
  unfold loadRepeaterPassword at loaded
  split at loaded
  · cases loaded
  · split at loaded
    · next slot found =>
      obtain ⟨counted, named⟩ := sound.slotOf_eq_some.mp found
      obtain ⟨-, stored, -, known, -⟩ := sound.entries slot counted
      refine ⟨slot, counted, named, ?_⟩
      rw [known] at loaded ⊢
      simp only [getString] at loaded
      split at loaded
      · cases loaded
      · simpa using loaded
    · cases loaded

theorem Paired.load_eq_some (sound : Paired passed store) :
    loadRepeaterPassword store name 64 = some password ↔
      ∃ slot < store.entryCount, store.names slot = some name ∧ store.passwords slot = some password := by
  refine ⟨sound.load_paired, ?_⟩
  rintro ⟨slot, counted, named, secret⟩
  obtain ⟨stored, kept, knownName, knownPassword, fits, -⟩ := sound.entries slot counted
  obtain rfl : name = stored := Option.some.inj (named.symm.trans knownName)
  obtain rfl : password = kept := Option.some.inj (secret.symm.trans knownPassword)
  obtain ⟨nonempty, -, -, short⟩ := fits_lengths fits
  have filled : ¬ (name = [] ∨ 64 = 0) := by
    rintro (rfl | impossible)
    · cases nonempty
    · cases impossible
  rw [loadRepeaterPassword, if_neg filled, sound.slotOf_eq_some.mpr ⟨counted, named⟩]
  simp only [secret, getString_of_lt short]
  rw [if_pos (Nat.succ_pos _)]

theorem Paired.own {maxLen : Nat} (sound : Paired passed store)
    (loaded : loadRepeaterPassword store name maxLen = some password) : (name, password) ∈ passed := by
  obtain ⟨slot, counted, named, secret⟩ := sound.load_paired loaded
  obtain ⟨stored, kept, knownName, knownPassword, -, saved⟩ := sound.entries slot counted
  obtain rfl : name = stored := Option.some.inj (named.symm.trans knownName)
  obtain rfl : password = kept := Option.some.inj (secret.symm.trans knownPassword)
  exact saved

theorem Paired.load_congr {more : List (Text × Text)} (sound : Paired passed store) (later : Paired more after)
    (same : ∀ password,
      (∃ slot < after.entryCount, after.names slot = some name ∧ after.passwords slot = some password) ↔
        ∃ slot < store.entryCount, store.names slot = some name ∧ store.passwords slot = some password) :
    loadRepeaterPassword after name 64 = loadRepeaterPassword store name 64 := by
  apply Option.ext
  intro password
  rw [later.load_eq_some, sound.load_eq_some]
  exact same password

structure Agrees (store after : PasswordStore) : Prop where
  count : after.entryCount = store.entryCount
  names : ∀ slot < store.entryCount, after.names slot = store.names slot
  passwords : ∀ slot < store.entryCount, after.passwords slot = store.passwords slot

theorem Agrees.refl : Agrees store store := ⟨rfl, fun _ _ => rfl, fun _ _ => rfl⟩

theorem Agrees.sound (agrees : Agrees store after) (sound : Paired passed store) : Paired passed after where
  entries slot counted := by
    rw [agrees.count] at counted
    rw [agrees.names slot counted, agrees.passwords slot counted]
    exact sound.entries slot counted
  distinct one first other second same := by
    rw [agrees.count] at first second
    rw [agrees.names one first, agrees.names other second] at same
    exact sound.distinct one first other second same

theorem Agrees.load (agrees : Agrees store after) (sound : Paired passed store) (name : Text) :
    loadRepeaterPassword after name 64 = loadRepeaterPassword store name 64 := by
  apply sound.load_congr (agrees.sound sound)
  intro password
  constructor
  · rintro ⟨slot, counted, named, secret⟩
    rw [agrees.count] at counted
    rw [agrees.names slot counted] at named
    rw [agrees.passwords slot counted] at secret
    exact ⟨slot, counted, named, secret⟩
  · rintro ⟨slot, counted, named, secret⟩
    refine ⟨slot, agrees.count ▸ counted, ?_, ?_⟩
    · rw [agrees.names slot counted, named]
    · rw [agrees.passwords slot counted, secret]

structure Replaces (store after : PasswordStore) (slot : Nat) (password : Text) : Prop where
  count : after.entryCount = store.entryCount
  names : after.names = store.names
  passwords : after.passwords = Function.update store.passwords slot (some password)

theorem Replaces.sound (replaces : Replaces store after slot password) (sound : Paired passed store)
    (named : store.names slot = some name) (fits : repeaterPasswordFitsSchema name password = true)
    (saved : (name, password) ∈ passed) : Paired passed after where
  entries index counted := by
    rw [replaces.count] at counted
    rw [replaces.names, replaces.passwords]
    by_cases same : index = slot
    · subst same
      exact ⟨name, password, named, Function.update_self .., fits, saved⟩
    · rw [Function.update_of_ne same]
      exact sound.entries index counted
  distinct := by
    rw [replaces.count, replaces.names]
    exact sound.distinct

theorem Replaces.load {other : Text} (replaces : Replaces store after slot password) (sound : Paired passed store)
    (later : Paired passed after) (named : store.names slot = some name) (different : other ≠ name) :
    loadRepeaterPassword after other 64 = loadRepeaterPassword store other 64 := by
  apply sound.load_congr later
  intro secret
  rw [replaces.count, replaces.names, replaces.passwords]
  have elsewhere (index : Nat) (known : store.names index = some other) : index ≠ slot := by
    rintro rfl
    exact different (Option.some.inj (known.symm.trans named))
  constructor
  · rintro ⟨index, counted, known, stored⟩
    rw [Function.update_of_ne (elsewhere index known)] at stored
    exact ⟨index, counted, known, stored⟩
  · rintro ⟨index, counted, known, stored⟩
    refine ⟨index, counted, known, ?_⟩
    rw [Function.update_of_ne (elsewhere index known), stored]

structure Appends (store after : PasswordStore) (name password : Text) : Prop where
  count : after.entryCount = store.entryCount + 1
  names : ∀ slot < store.entryCount, after.names slot = store.names slot
  passwords : ∀ slot < store.entryCount, after.passwords slot = store.passwords slot
  named : after.names store.entryCount = some name
  secret : after.passwords store.entryCount = some password

theorem Appends.sound (appends : Appends store after name password) (sound : Paired passed store)
    (absent : ∀ slot < store.entryCount, store.names slot ≠ some name)
    (fits : repeaterPasswordFitsSchema name password = true) (saved : (name, password) ∈ passed) :
    Paired passed after where
  entries slot counted := by
    rw [appends.count] at counted
    rcases Nat.lt_succ_iff_lt_or_eq.mp counted with below | rfl
    · rw [appends.names slot below, appends.passwords slot below]
      exact sound.entries slot below
    · exact ⟨name, password, appends.named, appends.secret, fits, saved⟩
  distinct one first other second same := by
    rw [appends.count] at first second
    rcases Nat.lt_succ_iff_lt_or_eq.mp first with below | rfl <;>
      rcases Nat.lt_succ_iff_lt_or_eq.mp second with inside | rfl
    · rw [appends.names one below, appends.names other inside] at same
      exact sound.distinct one below other inside same
    · rw [appends.names one below, appends.named] at same
      exact absurd same (absent one below)
    · rw [appends.names other inside, appends.named] at same
      exact absurd same.symm (absent other inside)
    · rfl

theorem Appends.load {other : Text} (appends : Appends store after name password) (sound : Paired passed store)
    (later : Paired passed after) (different : other ≠ name) :
    loadRepeaterPassword after other 64 = loadRepeaterPassword store other 64 := by
  apply sound.load_congr later
  intro secret
  rw [appends.count]
  constructor
  · rintro ⟨slot, counted, known, stored⟩
    rcases Nat.lt_succ_iff_lt_or_eq.mp counted with below | rfl
    · rw [appends.names slot below] at known
      rw [appends.passwords slot below] at stored
      exact ⟨slot, below, known, stored⟩
    · rw [appends.named] at known
      exact absurd (Option.some.inj known).symm different
  · rintro ⟨slot, below, known, stored⟩
    refine ⟨slot, Nat.lt_succ_of_lt below, ?_, ?_⟩
    · rw [appends.names slot below, known]
    · rw [appends.passwords slot below, stored]

structure Drops (store after : PasswordStore) : Prop where
  count : after.entryCount + 1 = store.entryCount
  names : ∀ slot < after.entryCount, after.names slot = store.names slot
  passwords : ∀ slot < after.entryCount, after.passwords slot = store.passwords slot

theorem Drops.below (drops : Drops store after) {slot : Nat} (counted : slot < after.entryCount) :
    slot < store.entryCount := by
  have count := drops.count
  omega

theorem Drops.sound (drops : Drops store after) (sound : Paired passed store) : Paired passed after where
  entries slot counted := by
    rw [drops.names slot counted, drops.passwords slot counted]
    exact sound.entries slot (drops.below counted)
  distinct one first other second same := by
    rw [drops.names one first, drops.names other second] at same
    exact sound.distinct one (drops.below first) other (drops.below second) same

theorem Drops.load {other : Text} (drops : Drops store after) (sound : Paired passed store)
    (named : store.names after.entryCount = some name) (different : other ≠ name) :
    loadRepeaterPassword after other 64 = loadRepeaterPassword store other 64 := by
  apply sound.load_congr (drops.sound sound)
  intro secret
  constructor
  · rintro ⟨slot, counted, known, stored⟩
    rw [drops.names slot counted] at known
    rw [drops.passwords slot counted] at stored
    exact ⟨slot, drops.below counted, known, stored⟩
  · rintro ⟨slot, counted, known, stored⟩
    have inside : slot < after.entryCount := by
      have count := drops.count
      have apart : slot ≠ after.entryCount := by
        rintro rfl
        exact different (Option.some.inj (known.symm.trans named))
      omega
    refine ⟨slot, inside, ?_, ?_⟩
    · rw [drops.names slot inside, known]
    · rw [drops.passwords slot inside, stored]

theorem Drops.load_dropped (drops : Drops store after) (sound : Paired passed store)
    (named : store.names after.entryCount = some name) : loadRepeaterPassword after name 64 = none := by
  rw [Option.eq_none_iff_forall_ne_some]
  intro password loaded
  obtain ⟨slot, counted, known, -⟩ := (drops.sound sound).load_paired loaded
  rw [drops.names slot counted] at known
  have last : after.entryCount < store.entryCount := by
    have count := drops.count
    omega
  have same := sound.distinct slot (drops.below counted) after.entryCount last (known.trans named.symm)
  omega

end Tables

section Writes

variable {nvs : PasswordNvs} {name password : Text} {slot count last : Nat}

def entryWrites (slot count : Nat) (name password : Text) : List PasswordWrite :=
  [.putName slot name, .putPassword slot password, .putCount (UInt8.ofNat count)]

def dropWrites (last : Nat) : List PasswordWrite :=
  [.putCount (UInt8.ofNat last), .removeName last, .removePassword last]

theorem putString_eq (write : Text → PasswordWrite) (text : Text) :
    nvs.putString write text =
      (if (nvs.write PasswordStore.apply (write text)).1 then text.length else 0,
        (nvs.write PasswordStore.apply (write text)).2) := by
  unfold PasswordNvs.putString
  cases nvs.write PasswordStore.apply (write text) with
  | mk done after => cases done <;> rfl

theorem putUChar_eq (value : UInt8) :
    nvs.putUChar value =
      (if (nvs.write PasswordStore.apply (.putCount value)).1 then 1 else 0,
        (nvs.write PasswordStore.apply (.putCount value)).2) := by
  unfold PasswordNvs.putUChar
  cases nvs.write PasswordStore.apply (.putCount value) with
  | mk done after => cases done <;> rfl

theorem putEntry_eq (named : 0 < name.length) (secret : 0 < password.length) :
    putEntry nvs slot count name password =
      nvs.writeAll PasswordStore.apply (entryWrites slot count name password) := by
  simp only [putEntry, putString_eq, putUChar_eq, entryWrites, Medium.writeAll]
  cases nvs.write PasswordStore.apply (.putName slot name) with
  | mk first nvs =>
    cases first with
    | false => simp [Nat.pos_iff_ne_zero.mp named |>.symm]
    | true =>
      simp only [↓reduceIte, ne_eq, not_true_eq_false]
      cases nvs.write PasswordStore.apply (.putPassword slot password) with
      | mk second nvs =>
        cases second with
        | false => simp [Nat.pos_iff_ne_zero.mp secret |>.symm]
        | true =>
          simp only [↓reduceIte, not_true_eq_false]
          cases nvs.write PasswordStore.apply (.putCount (UInt8.ofNat count)) with
          | mk third nvs => cases third <;> rfl

theorem dropLast_eq (named : nvs.state.names last = some name) (secret : nvs.state.passwords last = some password) :
    dropLast nvs last = nvs.writeAll PasswordStore.apply (dropWrites last) := by
  simp only [dropLast, putUChar_eq, dropWrites, Medium.writeAll]
  cases counted : nvs.write PasswordStore.apply (.putCount (UInt8.ofNat last)) with
  | mk first lowered =>
    cases first with
    | false => rfl
    | true =>
      have lowers := write_done counted
      have stillNamed : lowered.state.names last = some name := by rw [lowers, ← named]; rfl
      simp only [↓reduceIte, PasswordNvs.remove, stillNamed]
      cases removed : lowered.write PasswordStore.apply (.removeName last) with
      | mk second nameless =>
        cases second with
        | false => rfl
        | true =>
          have removes := write_done removed
          have stillSecret : nameless.state.passwords last = some password := by rw [removes, lowers, ← secret]; rfl
          simp only [stillSecret]
          cases nameless.write PasswordStore.apply (.removePassword last) with
          | mk third after => cases third <;> rfl

end Writes

def passedBy (events : List (PasswordCall × PasswordFault)) : List (Text × Text) :=
  events.filterMap fun event =>
    match event.1 with
    | .save name password => some (name, password)
    | _ => none

/-- What one call may do to the saved passwords. -/
structure CallLaw (passed : List (Text × Text)) (store : PasswordStore) (event : PasswordCall × PasswordFault) :
    Prop where
  own : ∀ name password maxLen, loadRepeaterPassword (performCall store event).2 name maxLen = some password →
    (name, password) ∈ passed
  kept : ∀ other, event.1 ≠ .clear → (∀ name password, event.1 = .save name password → other ≠ name) →
    (∀ name, event.1 = .remove name → other ≠ name) →
      loadRepeaterPassword (performCall store event).2 other 64 = loadRepeaterPassword store other 64
  removed : ∀ name, event = (.remove name, .fine) → loadRepeaterPassword store name 64 ≠ none →
    (performCall store event).1 = some true ∧ loadRepeaterPassword (performCall store event).2 name 64 = none
  unchanged : (performCall store event).1 = some false →
    ∀ name, loadRepeaterPassword (performCall store event).2 name 64 = loadRepeaterPassword store name 64

/-- The steps that keep clear of the length check of a move and of a write that fails after the entry changed. -/
def Allowed (store : PasswordStore) (event : PasswordCall × PasswordFault) : Prop :=
  match event with
  | (.save name password, fault) =>
    ∀ old, loadRepeaterPassword store name 64 = some old → old = password ∨ fault ≠ .fails 2
  | (.remove name, fault) =>
    ∀ slot, slotOf store name = some slot → fault = .fails 0 ∨ fault = .cut 0 ∨
      (slot + 1 = store.entryCount ∧ fault ≠ .fails 1 ∧ fault ≠ .fails 2)
  | (.clear, _) => True

section Steps

variable {store : PasswordStore} {passed : List (Text × Text)} {name password : Text} {slot : Nat}
  {event : PasswordCall × PasswordFault} {fault : PasswordFault}

theorem performCall_reached {called : PasswordCall} {steps : List PasswordWrite}
    (call : runCall ⟨store, fault.left⟩ called = Medium.writeAll PasswordStore.apply ⟨store, fault.left⟩ steps) :
    (performCall store (called, fault)).2 =
        applied PasswordStore.apply (steps.take (fault.left.getD steps.length)) store ∧
      ((performCall store (called, fault)).1 = some false → ∃ before, fault = .fails before ∧ before < steps.length) ∧
      (fault = .fine → (performCall store (called, fault)).1 = some true) := by
  have reached := @writeAll_reached _ _ PasswordStore.apply ⟨store, fault.left⟩ steps
  rw [← call] at reached
  obtain ⟨result, state⟩ := reached
  cases fault with
  | fine =>
    have done : (runCall ⟨store, none⟩ called).1 = true := result.trans (by simp [PasswordFault.left])
    refine ⟨state, fun refused => ?_, fun _ => congrArg some done⟩
    cases (Option.some.inj refused).symm.trans done
  | fails before =>
    refine ⟨state, fun refused => ⟨before, rfl, ?_⟩, nofun⟩
    have short := result.symm.trans (Option.some.inj refused)
    exact Nat.lt_of_not_le (of_decide_eq_false short)
  | cut after => exact ⟨state, nofun, nofun⟩

theorem entryCount_counted (names passwords : Nat → Option Text) {count : Nat} (small : count ≤ 8) :
    (PasswordStore.mk names passwords (some (UInt8.ofNat count))).entryCount = count := by
  simp only [PasswordStore.entryCount, Option.getD_some, UInt8.toNat_ofNat', maxSavedPws]
  omega

theorem entryCount_le (store : PasswordStore) : store.entryCount ≤ 8 := Nat.min_le_right _ _

theorem update_same {values : Nat → Option Text} {index : Nat} {text : Text} (known : values index = some text) :
    Function.update values index (some text) = values := by
  rw [← known, Function.update_eq_self]

theorem saveOver_reached (named : store.names slot = some name) (password : Text) (reached : Nat) :
    let after := applied PasswordStore.apply ((entryWrites slot store.entryCount name password).take reached) store
    (reached ≤ 1 → Agrees store after) ∧ (2 ≤ reached → Replaces store after slot password) := by
  match reached with
  | 0 => exact ⟨fun _ => .refl, by omega⟩
  | 1 =>
    refine ⟨fun _ => ?_, by omega⟩
    simp only [entryWrites, List.take, applied, List.foldl, PasswordStore.apply, update_same named]
    exact .refl
  | 2 =>
    refine ⟨by omega, fun _ => ?_⟩
    simp only [entryWrites, List.take, applied, List.foldl, PasswordStore.apply, update_same named]
    exact ⟨rfl, rfl, rfl⟩
  | more + 3 =>
    refine ⟨by omega, fun _ => ?_⟩
    simp only [entryWrites, List.take, applied, List.foldl, PasswordStore.apply, update_same named, List.take_nil]
    exact ⟨entryCount_counted _ _ (entryCount_le store), rfl, rfl⟩

theorem saveNew_reached (room : store.entryCount < maxSavedPws) (name password : Text) (reached : Nat) :
    let after := applied PasswordStore.apply
      ((entryWrites store.entryCount (store.entryCount + 1) name password).take reached) store
    (reached ≤ 2 → Agrees store after) ∧ (3 ≤ reached → Appends store after name password) := by
  have frame (values : Nat → Option Text) (text : Text) (index : Nat) (below : index < store.entryCount) :
      Function.update values store.entryCount (some text) index = values index :=
    Function.update_of_ne (Nat.ne_of_lt below) _ _
  match reached with
  | 0 => exact ⟨fun _ => .refl, by omega⟩
  | 1 => exact ⟨fun _ => ⟨rfl, frame _ _, fun _ _ => rfl⟩, by omega⟩
  | 2 => exact ⟨fun _ => ⟨rfl, frame _ _, frame _ _⟩, by omega⟩
  | more + 3 =>
    refine ⟨by omega, fun _ => ?_⟩
    simp only [entryWrites, List.take, applied, List.foldl, PasswordStore.apply, List.take_nil]
    exact ⟨entryCount_counted _ _ room, frame _ _, frame _ _, Function.update_self .., Function.update_self ..⟩

theorem drop_reached (counted : slot + 1 = store.entryCount) (reached : Nat) :
    let after := applied PasswordStore.apply ((dropWrites slot).take reached) store
    (reached = 0 → Agrees store after) ∧ (1 ≤ reached → Drops store after ∧ after.entryCount = slot) := by
  have small : slot ≤ 8 := by
    have bound := entryCount_le store
    omega
  have frame (values : Nat → Option Text) (index : Nat) (below : index < slot) :
      Function.update values slot none index = values index :=
    Function.update_of_ne (Nat.ne_of_lt below) _ _
  match reached with
  | 0 => exact ⟨fun _ => .refl, by omega⟩
  | 1 =>
    refine ⟨by omega, fun _ => ?_⟩
    have lowered := entryCount_counted store.names store.passwords small
    exact ⟨⟨lowered.symm ▸ counted, fun _ _ => rfl, fun _ _ => rfl⟩, lowered⟩
  | 2 =>
    refine ⟨by omega, fun _ => ?_⟩
    have lowered := entryCount_counted (Function.update store.names slot none) store.passwords small
    exact ⟨⟨lowered.symm ▸ counted, lowered.symm ▸ frame _, fun _ _ => rfl⟩, lowered⟩
  | more + 3 =>
    refine ⟨by omega, fun _ => ?_⟩
    have lowered := entryCount_counted (Function.update store.names slot none)
      (Function.update store.passwords slot none) small
    simp only [dropWrites, List.take, applied, List.foldl, PasswordStore.apply, List.take_nil]
    exact ⟨⟨lowered.symm ▸ counted, lowered.symm ▸ frame _, lowered.symm ▸ frame _⟩, lowered⟩

theorem law_of_agrees (sound : Paired passed store) (agrees : Agrees store (performCall store event).2)
    (nothing : ∀ name, event = (.remove name, .fine) → loadRepeaterPassword store name 64 = none) :
    Paired passed (performCall store event).2 ∧ CallLaw passed store event := by
  have later := agrees.sound sound
  refine ⟨later, ⟨?_, ?_, ?_, ?_⟩⟩
  · intro name password maxLen loaded
    exact later.own loaded
  · intro other _ _ _
    exact agrees.load sound other
  · intro name removes stored
    exact absurd (nothing name removes) stored
  · intro _ name
    exact agrees.load sound name

theorem saveOver_law (sound : Paired passed store) (saved : (name, password) ∈ passed)
    (fits : repeaterPasswordFitsSchema name password = true) (found : slotOf store name = some slot)
    (allowed : Allowed store (.save name password, fault)) :
    Paired passed (performCall store (.save name password, fault)).2 ∧
      CallLaw passed store (.save name password, fault) := by
  obtain ⟨counted, named⟩ := sound.slotOf_eq_some.mp found
  obtain ⟨nameFilled, -, passwordFilled, -⟩ := fits_lengths fits
  have call : runCall ⟨store, fault.left⟩ (.save name password) =
      Medium.writeAll PasswordStore.apply ⟨store, fault.left⟩ (entryWrites slot store.entryCount name password) := by
    simp only [runCall, saveRepeaterPassword, fits, found, putEntry_eq nameFilled passwordFilled, Bool.true_eq_false,
      ↓reduceIte]
  obtain ⟨state, refusal, -⟩ := performCall_reached call
  obtain ⟨early, late⟩ := saveOver_reached named password (fault.left.getD 3)
  by_cases reached : fault.left.getD 3 ≤ 1
  · exact law_of_agrees sound (state ▸ early reached) nofun
  · have replaces : Replaces store (performCall store (.save name password, fault)).2 slot password :=
      state ▸ late (by omega)
    have later := replaces.sound sound named fits saved
    have others (other : Text) (different : other ≠ name) := replaces.load sound later named different
    refine ⟨later, ⟨fun _ _ _ loaded => later.own loaded, fun other _ apart _ => others other (apart name password rfl),
      nofun, fun refused other => ?_⟩⟩
    obtain ⟨before, rfl, short⟩ := refusal refused
    have second : before = 2 := by
      simp only [PasswordFault.left, Option.getD_some, entryWrites, List.length_cons, List.length_nil] at reached short
      omega
    by_cases same : other = name
    · subst same
      obtain ⟨-, old, -, secret, -⟩ := sound.entries slot counted
      have before := sound.load_eq_some.mpr ⟨slot, counted, named, secret⟩
      have unaltered := (allowed old before).resolve_right (by simp [second])
      rw [before, unaltered, later.load_eq_some]
      refine ⟨slot, replaces.count ▸ counted, replaces.names ▸ named, ?_⟩
      rw [replaces.passwords, Function.update_self]
    · exact others other same

theorem saveNew_law (sound : Paired passed store) (saved : (name, password) ∈ passed)
    (fits : repeaterPasswordFitsSchema name password = true) (absent : slotOf store name = none)
    (room : store.entryCount < maxSavedPws) :
    Paired passed (performCall store (.save name password, fault)).2 ∧
      CallLaw passed store (.save name password, fault) := by
  obtain ⟨nameFilled, -, passwordFilled, -⟩ := fits_lengths fits
  have call : runCall ⟨store, fault.left⟩ (.save name password) =
      Medium.writeAll PasswordStore.apply ⟨store, fault.left⟩
        (entryWrites store.entryCount (store.entryCount + 1) name password) := by
    simp only [runCall, saveRepeaterPassword, fits, absent, room, putEntry_eq nameFilled passwordFilled,
      Bool.true_eq_false, ↓reduceIte]
  obtain ⟨state, refusal, -⟩ := performCall_reached call
  obtain ⟨early, late⟩ := saveNew_reached room name password (fault.left.getD 3)
  by_cases reached : fault.left.getD 3 ≤ 2
  · exact law_of_agrees sound (state ▸ early reached) nofun
  · have appends : Appends store (performCall store (.save name password, fault)).2 name password :=
      state ▸ late (by omega)
    have later := appends.sound sound (sound.slotOf_eq_none.mp absent) fits saved
    refine ⟨later, ⟨fun _ _ _ loaded => later.own loaded,
      fun other _ apart _ => appends.load sound later (apart name password rfl), nofun, fun refused => ?_⟩⟩
    obtain ⟨before, rfl, short⟩ := refusal refused
    simp only [PasswordFault.left, Option.getD_some, entryWrites, List.length_cons, List.length_nil] at reached short
    omega

theorem save_law (sound : Paired passed store) (saved : (name, password) ∈ passed)
    (allowed : Allowed store (.save name password, fault)) :
    Paired passed (performCall store (.save name password, fault)).2 ∧
      CallLaw passed store (.save name password, fault) := by
  cases fits : repeaterPasswordFitsSchema name password with
  | false =>
    refine law_of_agrees sound ?_ nofun
    cases fault <;> simp only [performCall, runCall, saveRepeaterPassword, fits, ↓reduceIte] <;> exact .refl
  | true =>
    cases found : slotOf store name with
    | some slot => exact saveOver_law sound saved fits found allowed
    | none =>
      by_cases room : store.entryCount < maxSavedPws
      · exact saveNew_law sound saved fits found room
      · refine law_of_agrees sound ?_ nofun
        cases fault <;>
          simp only [performCall, runCall, saveRepeaterPassword, fits, found, room, Bool.true_eq_false, ↓reduceIte] <;>
          exact .refl

theorem load_none_of_slotOf (absent : slotOf store name = none) : loadRepeaterPassword store name 64 = none := by
  unfold loadRepeaterPassword
  rw [absent]
  split <;> rfl

theorem removeLast_law (sound : Paired passed store) (found : slotOf store name = some slot)
    (last : slot + 1 = store.entryCount) (notName : fault ≠ .fails 1) (notPassword : fault ≠ .fails 2) :
    Paired passed (performCall store (.remove name, fault)).2 ∧ CallLaw passed store (.remove name, fault) := by
  obtain ⟨counted, named⟩ := sound.slotOf_eq_some.mp found
  obtain ⟨stored, password, known, secret, fits, -⟩ := sound.entries slot counted
  obtain rfl : name = stored := Option.some.inj (named.symm.trans known)
  obtain ⟨nameFilled, nameShort, -, -⟩ := fits_lengths fits
  have taken : ¬ (name = [] ∨ name.length ≥ 32) := by
    rintro (rfl | long)
    · cases nameFilled
    · omega
  have place : store.entryCount - 1 = slot := by omega
  have call : runCall ⟨store, fault.left⟩ (.remove name) =
      Medium.writeAll PasswordStore.apply ⟨store, fault.left⟩ (dropWrites slot) := by
    simp only [runCall, removeRepeaterPassword, if_neg taken, found, place, ne_eq, not_true_eq_false, ↓reduceIte]
    exact dropLast_eq named secret
  obtain ⟨state, refusal, success⟩ := performCall_reached call
  obtain ⟨early, late⟩ := drop_reached last (fault.left.getD 3)
  by_cases reached : fault.left.getD 3 = 0
  · refine law_of_agrees sound (state ▸ early reached) ?_
    rintro other ⟨⟩
    cases reached
  · obtain ⟨drops, lowered⟩ : Drops store (performCall store (.remove name, fault)).2 ∧
        (performCall store (.remove name, fault)).2.entryCount = slot := state ▸ late (by omega)
    have later := drops.sound sound
    have gone : store.names (performCall store (.remove name, fault)).2.entryCount = some name := lowered.symm ▸ named
    refine ⟨later, ⟨fun _ _ _ loaded => later.own loaded,
      fun other _ _ apart => drops.load sound gone (apart name rfl), ?_, fun refused => ?_⟩⟩
    · rintro other ⟨⟩ -
      exact ⟨success rfl, drops.load_dropped sound gone⟩
    · obtain ⟨before, rfl, short⟩ := refusal refused
      simp only [PasswordFault.left, Option.getD_some, dropWrites, List.length_cons, List.length_nil] at reached short
      have second : before = 1 ∨ before = 2 := by omega
      rcases second with rfl | rfl
      · exact absurd rfl notName
      · exact absurd rfl notPassword

theorem moveLast_stuck (last : Nat) : (moveLast ⟨store, some 0⟩ slot last) = (false, ⟨store, some 0⟩) := by
  unfold moveLast
  cases getString (store.names last) 32 with
  | mk nameLen movedName =>
    cases getString (store.passwords last) 64 with
    | mk pwLen movedPw =>
      dsimp only
      split
      · rfl
      · next sized =>
        have written : PasswordNvs.putString ⟨store, some 0⟩ (.putName slot) movedName = (0, ⟨store, some 0⟩) := rfl
        push Not at sized
        simp only [written, if_pos sized.1.symm]

theorem remove_stuck (stuck : fault.left = some 0) : (performCall store (.remove name, fault)).2 = store := by
  have called : (removeRepeaterPassword ⟨store, some 0⟩ name).2.state = store := by
    unfold removeRepeaterPassword
    dsimp only
    split
    · rfl
    · split
      · rfl
      · split
        · rw [moveLast_stuck]
        · rfl
  rw [← stuck] at called
  cases fault <;> exact called

theorem remove_law (sound : Paired passed store) (allowed : Allowed store (.remove name, fault)) :
    Paired passed (performCall store (.remove name, fault)).2 ∧ CallLaw passed store (.remove name, fault) := by
  cases found : slotOf store name with
  | none =>
    have idle : (performCall store (.remove name, fault)).2 = store := by
      cases fault <;> simp only [performCall, runCall, removeRepeaterPassword, found, ite_self]
    refine law_of_agrees sound (idle.symm ▸ .refl) ?_
    rintro other ⟨⟩
    exact load_none_of_slotOf found
  | some slot =>
    rcases allowed slot found with rfl | rfl | ⟨last, notName, notPassword⟩
    · exact law_of_agrees sound (by rw [remove_stuck rfl]; exact .refl) nofun
    · exact law_of_agrees sound (by rw [remove_stuck rfl]; exact .refl) nofun
    · exact removeLast_law sound found last notName notPassword

theorem clear_law (sound : Paired passed store) :
    Paired passed (performCall store (.clear, fault)).2 ∧ CallLaw passed store (.clear, fault) := by
  have call : runCall ⟨store, fault.left⟩ .clear =
      Medium.writeAll PasswordStore.apply ⟨store, fault.left⟩ [.clear] := by
    simp only [runCall, clearRepeaterPasswords, Medium.writeAll]
    cases Medium.write PasswordStore.apply ⟨store, fault.left⟩ .clear with
    | mk done after => cases done <;> rfl
  obtain ⟨state, refusal, -⟩ := performCall_reached call
  by_cases reached : fault.left.getD 1 = 0
  · refine law_of_agrees sound ?_ (by simp)
    rw [state]
    change Agrees store (applied PasswordStore.apply ([PasswordWrite.clear].take (fault.left.getD 1)) store)
    rw [reached]
    exact .refl
  · have erased : (performCall store (.clear, fault)).2 = .empty := by
      rw [state]
      change applied PasswordStore.apply ([PasswordWrite.clear].take (fault.left.getD 1)) store = _
      rw [List.take_of_length_le (by simp only [List.length_cons, List.length_nil]; omega)]
      rfl
    rw [erased]
    refine ⟨.empty, ⟨fun _ _ _ loaded => ?_, fun _ kept => absurd rfl kept, by simp, fun refused => ?_⟩⟩
    · rw [erased] at loaded
      exact Paired.empty.own loaded
    · obtain ⟨before, rfl, short⟩ := refusal refused
      simp only [PasswordFault.left, Option.getD_some, List.length_cons, List.length_nil] at reached short
      omega

theorem call_law (sound : Paired passed store) (allowed : Allowed store event) :
    Paired (passed ++ passedBy [event]) (passwordStep store event) ∧
      CallLaw (passed ++ passedBy [event]) store event := by
  have grown := sound.mono (List.subset_append_left passed (passedBy [event]))
  obtain ⟨call, fault⟩ := event
  cases call with
  | save name password => exact save_law grown (by simp [passedBy]) allowed
  | remove name => exact remove_law grown allowed
  | clear => exact clear_law grown

end Steps

theorem passedBy_append (before after : List (PasswordCall × PasswordFault)) :
    passedBy (before ++ after) = passedBy before ++ passedBy after := List.filterMap_append

/-- In a run whose calls keep to the condition every call keeps the saved passwords apart. -/
theorem repeater_passwords_kept_apart (events : List (PasswordCall × PasswordFault))
    (allowed : Runs.Along passwordStep Allowed .empty events) (before : List (PasswordCall × PasswordFault))
    (event : PasswordCall × PasswordFault) (after : List (PasswordCall × PasswordFault))
    (place : events = before ++ event :: after) :
    CallLaw (passedBy (before ++ [event])) (Runs.run passwordStep .empty before) event := by
  subst place
  obtain ⟨early, now, -⟩ := Runs.along_append.mp allowed
  have sound : Paired (passedBy before) (Runs.run passwordStep .empty before) := by
    refine Runs.run_history (fun past store => Paired (passedBy past) store) Paired.empty ?_ early
    intro past call store kept meets
    rw [passedBy_append]
    exact (call_law kept meets).1
  rw [passedBy_append]
  exact (call_law sound now).2

/-- A name is saved and removed again. -/
theorem savedAndRemoved_kept_apart :
    CallLaw (passedBy [(.save [97] [49], .fine), (.remove [97], .fine)])
      (Runs.run passwordStep .empty [(.save [97] [49], .fine)]) (.remove [97], .fine) := by
  refine repeater_passwords_kept_apart [(.save [97] [49], .fine), (.remove [97], .fine)]
    ⟨fun _ _ => .inr nofun, ?_, trivial⟩ [(.save [97] [49], .fine)] (.remove [97], .fine) [] rfl
  intro slot found
  have first : slotOf (passwordStep .empty (.save [97] [49], .fine)) [97] = some 0 := by decide +kernel
  obtain rfl : slot = 0 := Option.some.inj (found.symm.trans first)
  exact .inr (.inr ⟨by decide +kernel, nofun, nofun⟩)

/-- Removing the first of two entries, with nothing failing, gives the second name the first one's password. -/
theorem movedPassword_crosses :
    ¬ CallLaw (passedBy [(.save [97] [49], .fine), (.save [98] [50], .fine), (.remove [97], .fine)])
      (Runs.run passwordStep .empty [(.save [97] [49], .fine), (.save [98] [50], .fine)]) (.remove [97], .fine) := by
  intro law
  have crossed : ([98], [49]) ∈ passedBy [(.save [97] [49], .fine), (.save [98] [50], .fine), (.remove [97], .fine)] :=
    law.own [98] [49] 64 (by decide +kernel)
  revert crossed
  decide +kernel

end SigurdOS.Hal
