import Mathlib.Data.Nat.Cast.Order.Ring
import Mathlib.Data.Nat.Cast.WithTop
import OpnetNode.Peer.BlacklistManager

/-!
# A ban is in force until its deadline

The deadline of an entry is its expiry, and for a permanent entry there is none: deadlines are natural
numbers with a top. A later entry for the same key replaces the one before it, so a ban stays in force
if no entry is replaced by one with an earlier deadline.

* `BlacklistEntry.deadline`: both checks of an entry compare the time with it.
* `denies_of_get`: what has an entry is denied up to the deadline.
* `lasts_step`: an event leaves an entry that lasts as long, unless it lifts the ban, replaces a
  permanent entry by a temporary one, or starts a process that does not read the entry back.
* `bansHold`: so along every run without such events, every ban is in force until its deadline.
* `persisted_of_runFrom`: a process reads its bans back if its writes have landed in order.
-/

namespace OpnetNode

namespace BlacklistEntry

/-- Until when an entry is in force. -/
def deadline (entry : BlacklistEntry) : WithTop ℕ :=
  if entry.permanent then ⊤
  else
    match entry.expiresAt with
    | some expiresAt => if expiresAt = 0 then ⊤ else expiresAt
    | none => ⊤

theorem isExpired_iff (now : ℕ) (entry : BlacklistEntry) :
    entry.isExpired now = true ↔ entry.deadline < now := by
  unfold isExpired deadline
  cases entry.permanent with
  | true => simp
  | false =>
    cases entry.expiresAt with
    | none => simp
    | some expiresAt =>
      by_cases hzero : expiresAt = 0
      · simp [hzero]
      · simp [hzero]

theorem isLoaded_iff (now : ℕ) (entry : BlacklistEntry) :
    entry.isLoaded now = true ↔ now < entry.deadline := by
  unfold isLoaded deadline
  cases entry.permanent with
  | true => simp
  | false =>
    cases entry.expiresAt with
    | none => simp
    | some expiresAt =>
      by_cases hzero : expiresAt = 0
      · simp [hzero]
      · simp [hzero]

end BlacklistEntry

namespace BlacklistManager

open BlacklistEntry (DEFAULT_EXPIRY isPermanent)
open Multiaddr (extractAddressHost nonempty)

/-! ### The two maps -/

theorem get_set (key key' : BlacklistKey) (entry : BlacklistEntry) (s : BlacklistManager) :
    (s.set key entry).get key' = if key' = key then some entry else s.get key' := by
  cases key with
  | peer peerId =>
    cases key' with
    | peer peerId' =>
      show (s.peerBlacklist.set peerId entry).get peerId' = _
      simp [JsMap.get_set, get]
    | ip ip' => simp [set, get]
  | ip ip =>
    cases key' with
    | peer peerId' => simp [set, get]
    | ip ip' =>
      show (s.ipBlacklist.set ip entry).get ip' = _
      simp [JsMap.get_set, get]

theorem get_delete (key key' : BlacklistKey) (s : BlacklistManager) :
    (s.delete key).get key' = if key' = key then none else s.get key' := by
  cases key with
  | peer peerId =>
    cases key' with
    | peer peerId' =>
      show (s.peerBlacklist.erase peerId).get peerId' = _
      simp [JsMap.get_erase, get]
    | ip ip' => simp [delete, get]
  | ip ip =>
    cases key' with
    | peer peerId' => simp [delete, get]
    | ip ip' =>
      show (s.ipBlacklist.erase ip).get ip' = _
      simp [JsMap.get_erase, get]

@[simp] theorem now_set (key : BlacklistKey) (entry : BlacklistEntry) (s : BlacklistManager) :
    (s.set key entry).now = s.now := by
  cases key <;> rfl

@[simp] theorem stored_set (key key' : BlacklistKey) (entry : BlacklistEntry)
    (s : BlacklistManager) : (s.set key entry).stored key' = s.stored key' := by
  cases key <;> rfl

@[simp] theorem writes_set (key : BlacklistKey) (entry : BlacklistEntry) (s : BlacklistManager) :
    (s.set key entry).writes = s.writes := by
  cases key <;> rfl

@[simp] theorem now_delete (key : BlacklistKey) (s : BlacklistManager) :
    (s.delete key).now = s.now := by
  cases key <;> rfl

@[simp] theorem stored_delete (key key' : BlacklistKey) (s : BlacklistManager) :
    (s.delete key).stored key' = s.stored key' := by
  cases key <;> rfl

@[simp] theorem writes_delete (key : BlacklistKey) (s : BlacklistManager) :
    (s.delete key).writes = s.writes := by
  cases key <;> rfl

@[simp] theorem get_persistEntry (key key' : BlacklistKey) (entry : BlacklistEntry)
    (next : Option AddressLoop) (s : BlacklistManager) :
    (s.persistEntry key entry next).get key' = s.get key' := by
  cases key' <;> rfl

@[simp] theorem get_removeEntry (key key' : BlacklistKey) (s : BlacklistManager) :
    (s.removeEntry key).get key' = s.get key' := by
  cases key' <;> rfl

variable {key : BlacklistKey} {entry : BlacklistEntry}

theorem mem_entries_iff (s : BlacklistManager) :
    (key, entry) ∈ s.entries ↔ s.get key = some entry := by
  unfold entries
  rw [List.mem_append, List.mem_map, List.mem_map]
  cases key with
  | peer peerId =>
    rw [get, ← JsMap.mem_entries_iff]
    constructor
    · rintro (⟨⟨peerId', entry'⟩, hmem, heq⟩ | ⟨_, _, heq⟩)
      · obtain ⟨hkey, rfl⟩ := Prod.mk.inj heq
        obtain rfl := BlacklistKey.peer.inj hkey
        exact hmem
      · simp at heq
    · intro hmem
      exact .inl ⟨_, hmem, rfl⟩
  | ip ip =>
    rw [get, ← JsMap.mem_entries_iff]
    constructor
    · rintro (⟨_, _, heq⟩ | ⟨⟨ip', entry'⟩, hmem, heq⟩)
      · simp at heq
      · obtain ⟨hkey, rfl⟩ := Prod.mk.inj heq
        obtain rfl := BlacklistKey.ip.inj hkey
        exact hmem
    · intro hmem
      exact .inr ⟨_, hmem, rfl⟩

/-! ### Denial -/

/-- Every connection of the peer, or from the address, is denied. -/
def Denies (s : BlacklistManager) : BlacklistKey → Prop
  | .peer peerId => ∀ multiaddr, (s.shouldDenyConnection peerId multiaddr).1 = true
  | .ip ip => ∀ peerId multiaddr, extractAddressHost multiaddr = some ip →
      (s.shouldDenyConnection peerId (some multiaddr)).1 = true

variable {s : BlacklistManager}

theorem isBlacklisted_of_get (hget : s.get key = some entry) (hdeadline : s.now ≤ entry.deadline) :
    s.isBlacklisted key = (true, s) := by
  have hexpired : entry.isExpired s.now = false := by
    rw [Bool.eq_false_iff, ne_eq, BlacklistEntry.isExpired_iff, not_lt]
    exact hdeadline
  unfold isBlacklisted
  simp [hget, hexpired]

variable {key' : BlacklistKey}

theorem get_isBlacklisted_of_ne (s : BlacklistManager)
    (hne : key' ≠ key) : (s.isBlacklisted key).2.get key' = s.get key' := by
  unfold isBlacklisted
  split
  · rfl
  · split
    · rw [get_removeEntry, get_delete, if_neg hne]
    · rfl

theorem now_isBlacklisted (key : BlacklistKey) (s : BlacklistManager) :
    (s.isBlacklisted key).2.now = s.now := by
  unfold isBlacklisted
  split
  · rfl
  · split
    · exact now_delete key s
    · rfl

theorem denies_of_get
    (hget : s.get key = some entry) (hdeadline : s.now ≤ entry.deadline) : s.Denies key := by
  cases key with
  | peer peerId =>
    intro multiaddr
    unfold shouldDenyConnection isPeerBlacklisted
    rw [isBlacklisted_of_get hget hdeadline]
    dsimp only
    rw [if_pos rfl, hget]
    dsimp only
    split <;> rfl
  | ip ip =>
    intro peerId multiaddr hhost
    unfold shouldDenyConnection isPeerBlacklisted isIPBlacklisted
    dsimp only
    split
    · split
      · split <;> rfl
      · rfl
    · rw [Option.bind_some, hhost]
      dsimp only
      rw [@isBlacklisted_of_get _ entry]
      · rw [get_isBlacklisted_of_ne s (by simp)]
        exact hget
      · rw [now_isBlacklisted]
        exact hdeadline


/-! ### The entries there are -/

/-- An entry has the name of its key, and is permanent or expires within the default expiry. -/
def WellFormed (now : ℕ) (key : BlacklistKey) (entry : BlacklistEntry) : Prop :=
  (match key with
    | .peer peerId => entry.peerId = some peerId
    | .ip ip => entry.ipAddress = some ip)
  ∧ (entry.permanent = true ∨ entry.deadline ≤ ((now + DEFAULT_EXPIRY : ℕ) : WithTop ℕ))

variable {now : ℕ}

theorem WellFormed.mono {now' : ℕ}
    (h : WellFormed now key entry) (hnow : now ≤ now') : WellFormed now' key entry := by
  refine ⟨h.1, h.2.imp id fun hdeadline => hdeadline.trans ?_⟩
  exact Nat.cast_le.mpr (Nat.add_le_add_right hnow _)

/-- All entries are well formed: those in memory, in the datastore, and in flight. -/
structure EntriesInv (s : BlacklistManager) : Prop where
  memory : ∀ key entry, s.get key = some entry → WellFormed s.now key entry
  stored : ∀ key entry, s.stored key = some entry → WellFormed s.now key entry
  writes : ∀ write ∈ s.writes, ∀ entry, write.entry = some entry → WellFormed s.now write.key entry

theorem entriesInv_initial (now : ℕ) : EntriesInv (initial now) where
  memory key entry hget := by
    cases key with
    | peer | ip => simp [initial, get] at hget
  stored key entry hstored := by simp [initial, stored] at hstored
  writes write hwrite := by simp [initial] at hwrite

theorem EntriesInv.set
    (h : EntriesInv s) (hentry : WellFormed s.now key entry) : EntriesInv (s.set key entry) where
  memory key' entry' hget := by
    rw [now_set]
    rw [get_set] at hget
    split_ifs at hget with hkey
    · cases hget
      exact hkey ▸ hentry
    · exact h.memory key' entry' hget
  stored key' entry' hstored := by
    rw [now_set]
    exact h.stored key' entry' (by simpa using hstored)
  writes write hwrite := by
    rw [now_set]
    exact h.writes write (by simpa using hwrite)

theorem EntriesInv.delete (h : EntriesInv s) (key : BlacklistKey) : EntriesInv (s.delete key) where
  memory key' entry' hget := by
    rw [now_delete]
    rw [get_delete] at hget
    split_ifs at hget
    exact h.memory key' entry' hget
  stored key' entry' hstored := by
    rw [now_delete]
    exact h.stored key' entry' (by simpa using hstored)
  writes write hwrite := by
    rw [now_delete]
    exact h.writes write (by simpa using hwrite)

theorem EntriesInv.persistEntry (h : EntriesInv s) (hentry : WellFormed s.now key entry)
    (next : Option AddressLoop) : EntriesInv (s.persistEntry key entry next) where
  memory key' entry' hget := h.memory key' entry' (by simpa using hget)
  stored := h.stored
  writes write hwrite entry' hentry' := by
    rcases List.mem_append.mp hwrite with hold | hnew
    · exact h.writes write hold entry' hentry'
    · obtain rfl := List.mem_singleton.mp hnew
      cases hentry'
      exact hentry

theorem EntriesInv.removeEntry (h : EntriesInv s) (key : BlacklistKey) :
    EntriesInv (s.removeEntry key) where
  memory key' entry' hget := h.memory key' entry' (by simpa using hget)
  stored := h.stored
  writes write hwrite entry' hentry' := by
    rcases List.mem_append.mp hwrite with hold | hnew
    · exact h.writes write hold entry' hentry'
    · obtain rfl := List.mem_singleton.mp hnew
      cases hentry'

/-! ### What a step leaves of a ban -/

/-- A ban that is still in force has an entry that lasts as long. -/
def Lasts (key : BlacklistKey) (s s' : BlacklistManager) : Prop :=
  s.now ≤ s'.now ∧ ∀ entry, s.get key = some entry → s'.now < entry.deadline →
    ∃ entry', s'.get key = some entry' ∧ entry.deadline ≤ entry'.deadline

variable {s' : BlacklistManager}

theorem Lasts.of_get_eq (hnow : s.now ≤ s'.now) (hget : s'.get key = s.get key) : Lasts key s s' :=
  ⟨hnow, fun entry hentry _ => ⟨entry, hget.trans hentry, le_rfl⟩⟩

theorem Lasts.trans {s'' : BlacklistManager} (h : Lasts key s s')
    (h' : Lasts key s' s'') : Lasts key s s'' := by
  refine ⟨h.1.trans h'.1, fun entry hentry hnow => ?_⟩
  have hnow' : (s'.now : WithTop ℕ) < entry.deadline :=
    (WithTop.coe_le_coe.mpr h'.1).trans_lt hnow
  obtain ⟨entry', hentry', hle⟩ := h.2 entry hentry hnow'
  obtain ⟨entry'', hentry'', hle'⟩ := h'.2 entry' hentry' (hnow.trans_le hle)
  exact ⟨entry'', hentry'', hle.trans hle'⟩

variable {entry' : BlacklistEntry}

theorem Lasts.set (h : ∀ entry, s.get key' = some entry → entry.deadline ≤ entry'.deadline) :
    Lasts key s (s.set key' entry') := by
  refine ⟨(now_set key' entry' s).ge, fun entry hentry _ => ?_⟩
  rw [get_set]
  by_cases hkey : key = key'
  · rw [if_pos hkey]
    exact ⟨entry', rfl, h entry (hkey ▸ hentry)⟩
  · rw [if_neg hkey]
    exact ⟨entry, hentry, le_rfl⟩

theorem Lasts.delete
    (h : key = key' → ∀ entry, s.get key = some entry → entry.isExpired s.now = true) :
    Lasts key s (s.delete key') := by
  refine ⟨(now_delete key' s).ge, fun entry hentry hnow => ?_⟩
  rw [now_delete] at hnow
  rw [get_delete]
  by_cases hkey : key = key'
  · have hexpired := (BlacklistEntry.isExpired_iff _ _).mp (h hkey entry hentry)
    exact absurd hnow (not_lt.mpr hexpired.le)
  · rw [if_neg hkey]
    exact ⟨entry, hentry, le_rfl⟩

theorem lasts_persistEntry (key key' : BlacklistKey) (entry : BlacklistEntry)
    (next : Option AddressLoop) (s : BlacklistManager) :
    Lasts key s (s.persistEntry key' entry next) :=
  .of_get_eq le_rfl (get_persistEntry key' key entry next s)

theorem lasts_removeEntry (key key' : BlacklistKey) (s : BlacklistManager) :
    Lasts key s (s.removeEntry key') :=
  .of_get_eq le_rfl (get_removeEntry key' key s)

/-! ### Blacklisting -/

/-- A temporary ban takes the place of a permanent one. -/
def Demotes (s : BlacklistManager) (key : BlacklistKey) (reason : DisconnectionCode)
    (permanent : Option Bool) : Prop :=
  (s.get key).any BlacklistEntry.permanent = true ∧ isPermanent reason permanent = false

/-- The entry that either method builds: permanent, or with the default expiry from now. -/
structure NewEntry (now : ℕ) (reason : DisconnectionCode) (permanent : Option Bool)
    (entry : BlacklistEntry) : Prop where
  permanent_eq : entry.permanent = isPermanent reason permanent
  expiresAt_eq : entry.expiresAt =
    if isPermanent reason permanent then none else some (now + DEFAULT_EXPIRY)

variable {reason : DisconnectionCode} {permanent : Option Bool}

theorem NewEntry.deadline (h : NewEntry now reason permanent entry) : entry.deadline =
      if isPermanent reason permanent then ⊤ else ((now + DEFAULT_EXPIRY : ℕ) : WithTop ℕ) := by
  unfold BlacklistEntry.deadline
  rw [h.permanent_eq, h.expiresAt_eq]
  cases isPermanent reason permanent with
  | true => rfl
  | false =>
    have hpos : DEFAULT_EXPIRY ≠ 0 := by decide
    simp [hpos]

theorem NewEntry.bounded (h : NewEntry now reason permanent entry) :
    entry.permanent = true ∨ entry.deadline ≤ ((now + DEFAULT_EXPIRY : ℕ) : WithTop ℕ) := by
  rw [h.deadline, h.permanent_eq]
  cases isPermanent reason permanent with
  | true => exact .inl rfl
  | false => exact .inr le_rfl

theorem NewEntry.deadline_le (h : NewEntry s.now reason permanent entry') (hs : EntriesInv s)
    (hdemotes : ¬ s.Demotes key reason permanent) (hentry : s.get key = some entry) :
    entry.deadline ≤ entry'.deadline := by
  rw [h.deadline]
  cases hpermanent : isPermanent reason permanent with
  | true => exact le_top
  | false =>
    have hold : entry.permanent = false := by
      by_contra htrue
      exact hdemotes ⟨by simpa [hentry] using htrue, hpermanent⟩
    have hbounded := (hs.memory key entry hentry).2
    simpa [hold] using hbounded

theorem lasts_blacklistIP {ip : String} (next : Option AddressLoop) (hs : EntriesInv s)
    (hdemotes : ¬ s.Demotes (.ip ip) reason permanent) :
    EntriesInv (s.blacklistIP ip reason permanent next)
      ∧ ∀ key, Lasts key s (s.blacklistIP ip reason permanent next) := by
  unfold blacklistIP
  dsimp only
  generalize hentry : BlacklistEntry.mk none (some ip) reason s.now (isPermanent reason permanent)
    (if isPermanent reason permanent then none else some (s.now + DEFAULT_EXPIRY)) _ none = entry
  have hnew : NewEntry s.now reason permanent entry := by
    subst hentry
    exact ⟨rfl, rfl⟩
  have hformed : WellFormed s.now (.ip ip) entry := ⟨by subst hentry; rfl, hnew.bounded⟩
  constructor
  · exact (hs.set hformed).persistEntry (by rw [now_set]; exact hformed) next
  · intro key
    refine Lasts.trans (.set fun old hold => ?_) (lasts_persistEntry _ _ _ _ _)
    exact hnew.deadline_le hs hdemotes hold

variable {peerId : String}

theorem lasts_blacklistPeer {addresses : Option (List Multiaddr)} (hs : EntriesInv s)
    (hdemotes : ¬ s.Demotes (.peer peerId) reason permanent) :
    EntriesInv (s.blacklistPeer peerId reason addresses permanent)
      ∧ ∀ key, Lasts key s (s.blacklistPeer peerId reason addresses permanent) := by
  unfold blacklistPeer
  dsimp only
  generalize hentry : BlacklistEntry.mk (some peerId) none reason s.now
    (isPermanent reason permanent)
    (if isPermanent reason permanent then none else some (s.now + DEFAULT_EXPIRY)) _ _ = entry
  have hnew : NewEntry s.now reason permanent entry := by
    subst hentry
    exact ⟨rfl, rfl⟩
  have hformed : WellFormed s.now (.peer peerId) entry := ⟨by subst hentry; rfl, hnew.bounded⟩
  constructor
  · exact (hs.set hformed).persistEntry (by rw [now_set]; exact hformed) _
  · intro key
    refine Lasts.trans (.set fun old hold => ?_) (lasts_persistEntry _ _ _ _ _)
    exact hnew.deadline_le hs hdemotes hold

theorem lasts_blacklistAddresses (reason : DisconnectionCode)
    (permanent : Option Bool) (addresses : List Multiaddr) (hs : EntriesInv s)
    (hdemotes : ∀ ip, addresses.findSome? extractAddressHost = some ip →
      ¬ s.Demotes (.ip ip) reason permanent) :
    EntriesInv (s.blacklistAddresses reason permanent addresses)
      ∧ ∀ key, Lasts key s (s.blacklistAddresses reason permanent addresses) := by
  induction addresses with
  | nil => exact ⟨hs, fun key => .of_get_eq le_rfl rfl⟩
  | cons addr addresses ih =>
    rw [blacklistAddresses]
    cases hhost : extractAddressHost addr with
    | some ip =>
      dsimp only
      exact lasts_blacklistIP _ hs (hdemotes ip (by simp [hhost]))
    | none =>
      dsimp only
      apply ih
      intro ip hip
      exact hdemotes ip (by simpa [hhost] using hip)

/-! ### The checks -/

theorem lasts_isBlacklisted (key : BlacklistKey) (hs : EntriesInv s) :
    EntriesInv (s.isBlacklisted key).2 ∧ ∀ key', Lasts key' s (s.isBlacklisted key).2 := by
  unfold isBlacklisted
  split
  · exact ⟨hs, fun key' => .of_get_eq le_rfl rfl⟩
  · rename_i entry hentry
    split
    · rename_i hexpired
      refine ⟨(hs.delete key).removeEntry key, fun key' => ?_⟩
      refine Lasts.trans (.delete fun hkey entry' hentry' => ?_) (lasts_removeEntry _ _ _)
      rw [hkey, hentry] at hentry'
      cases hentry'
      exact hexpired
    · exact ⟨hs, fun key' => .of_get_eq le_rfl rfl⟩

/-- An entry that is upgraded never expires. -/
theorem lasts_upgrade (hs : EntriesInv s) (hentry : s.get (.peer peerId) = some entry) :
    EntriesInv ((s.set (.peer peerId) { entry with permanent := true }).persistEntry
        (.peer peerId) { entry with permanent := true } none)
      ∧ ∀ key, Lasts key s ((s.set (.peer peerId) { entry with permanent := true }).persistEntry
        (.peer peerId) { entry with permanent := true } none) := by
  have hformed : WellFormed s.now (.peer peerId) { entry with permanent := true } :=
    ⟨(hs.memory _ entry hentry).1, .inl rfl⟩
  constructor
  · exact (hs.set hformed).persistEntry (by rw [now_set]; exact hformed) none
  · intro key
    refine Lasts.trans (.set fun old _ => ?_) (lasts_persistEntry _ _ _ _ _)
    exact le_top

theorem lasts_shouldDenyConnection (peerId : String)
    (multiaddr : Option Multiaddr) (hs : EntriesInv s) :
    EntriesInv (s.shouldDenyConnection peerId multiaddr).2
      ∧ ∀ key, Lasts key s (s.shouldDenyConnection peerId multiaddr).2 := by
  obtain ⟨hpeer, hlasts⟩ := lasts_isBlacklisted (.peer peerId) hs
  unfold shouldDenyConnection isPeerBlacklisted isIPBlacklisted
  dsimp only
  split
  · split
    · rename_i entry hentry
      split
      · obtain ⟨hupgraded, hlasts'⟩ := lasts_upgrade hpeer hentry
        exact ⟨hupgraded, fun key => (hlasts key).trans (hlasts' key)⟩
      · exact ⟨hpeer, hlasts⟩
    · exact ⟨hpeer, hlasts⟩
  · split
    · rename_i ip hip
      obtain ⟨hip, hlasts'⟩ := lasts_isBlacklisted (.ip ip) hpeer
      exact ⟨hip, fun key => (hlasts key).trans (hlasts' key)⟩
    · exact ⟨hpeer, hlasts⟩

theorem lasts_whitelist (key : BlacklistKey) (hs : EntriesInv s) :
    EntriesInv (s.whitelist key) ∧ ∀ key', key' ≠ key → Lasts key' s (s.whitelist key) := by
  unfold whitelist
  split
  · refine ⟨(hs.delete key).removeEntry key, fun key' hkey => ?_⟩
    exact Lasts.trans (.delete fun heq => absurd heq hkey) (lasts_removeEntry _ _ _)
  · exact ⟨hs, fun key' _ => .of_get_eq le_rfl rfl⟩

theorem lasts_removeExpired (l : List (BlacklistKey × BlacklistEntry)) (hs : EntriesInv s)
    (hl : ∀ pair ∈ l, ∀ entry, s.get pair.1 = some entry → entry.isExpired s.now = true) :
    EntriesInv (l.foldl (fun s entry => (s.delete entry.1).removeEntry entry.1) s)
      ∧ ∀ key, Lasts key s (l.foldl (fun s entry => (s.delete entry.1).removeEntry entry.1) s) := by
  induction l generalizing s with
  | nil => exact ⟨hs, fun key => .of_get_eq le_rfl rfl⟩
  | cons pair l ih =>
    rw [List.foldl_cons]
    have hstep : ∀ key, Lasts key s ((s.delete pair.1).removeEntry pair.1) := by
      intro key
      refine Lasts.trans (.delete fun hkey entry hentry => ?_) (lasts_removeEntry _ _ _)
      exact hl pair List.mem_cons_self entry (hkey ▸ hentry)
    obtain ⟨hinv, hlasts⟩ := ih ((hs.delete pair.1).removeEntry pair.1) (by
      intro pair' hpair' entry hentry
      rw [get_removeEntry, get_delete] at hentry
      split_ifs at hentry
      rw [show ((s.delete pair.1).removeEntry pair.1).now = s.now from now_delete _ s]
      exact hl pair' (List.mem_cons_of_mem _ hpair') entry hentry)
    exact ⟨hinv, fun key => (hstep key).trans (hlasts key)⟩

theorem lasts_cleanupExpiredEntries (hs : EntriesInv s) :
    EntriesInv s.cleanupExpiredEntries ∧ ∀ key, Lasts key s s.cleanupExpiredEntries := by
  apply lasts_removeExpired _ hs
  intro pair hpair entry hentry
  obtain ⟨hmem, hexpired⟩ := List.mem_filter.mp hpair
  have hget := s.mem_entries_iff.mp (show (pair.1, pair.2) ∈ s.entries from hmem)
  rw [hget] at hentry
  cases hentry
  exact hexpired

/-! ### Restarts -/

def loadedName : BlacklistKey → BlacklistEntry → Option String
  | .peer _, entry => nonempty entry.peerId
  | .ip _, entry => nonempty entry.ipAddress

variable {unread : List BlacklistKey}

theorem loadEntry_eq
    {pair : BlacklistKey × BlacklistEntry} (hformed : WellFormed s.now pair.1 pair.2) :
    loadEntry unread s pair =
      if pair.1 ∉ unread ∧ (loadedName pair.1 pair.2).isSome ∧ pair.2.isLoaded s.now = true then
        s.set pair.1 pair.2
      else s := by
  obtain ⟨key, entry⟩ := pair
  unfold loadEntry
  dsimp only
  by_cases hunread : key ∈ unread
  · simp [hunread]
  · cases key with
    | peer peerId =>
      have hname : entry.peerId = some peerId := hformed.1
      by_cases hempty : peerId = ""
      · simp [loadedName, nonempty, hname, hempty]
      · simp [hunread, loadedName, nonempty, hname, hempty]
    | ip ip =>
      have hname : entry.ipAddress = some ip := hformed.1
      by_cases hempty : ip = ""
      · simp [loadedName, nonempty, hname, hempty]
      · simp [hunread, loadedName, nonempty, hname, hempty]

theorem loadEntries_spec (unread : List BlacklistKey) (l : List (BlacklistKey × BlacklistEntry))
    (hs : EntriesInv s) (hl : ∀ pair ∈ l, WellFormed s.now pair.1 pair.2)
    (hnodup : (l.map Prod.fst).Nodup) :
    EntriesInv (l.foldl (loadEntry unread) s) ∧ (l.foldl (loadEntry unread) s).now = s.now
      ∧ (∀ key, key ∉ l.map Prod.fst → (l.foldl (loadEntry unread) s).get key = s.get key)
      ∧ ∀ pair ∈ l, pair.1 ∉ unread → (loadedName pair.1 pair.2).isSome →
        pair.2.isLoaded s.now = true →
          (l.foldl (loadEntry unread) s).get pair.1 = some pair.2 := by
  induction l generalizing s with
  | nil => exact ⟨hs, rfl, fun key _ => rfl, fun pair hpair => by simp at hpair⟩
  | cons pair l ih =>
    rw [List.map_cons, List.nodup_cons] at hnodup
    have hformed := hl pair List.mem_cons_self
    have hnow : (loadEntry unread s pair).now = s.now := by
      rw [loadEntry_eq hformed]
      split
      · exact now_set _ _ s
      · rfl
    have hinv : EntriesInv (loadEntry unread s pair) := by
      rw [loadEntry_eq hformed]
      split
      · exact hs.set hformed
      · exact hs
    obtain ⟨hinv', hnow', hother, hloaded⟩ := ih hinv
      (fun pair' hpair' => hnow ▸ hl pair' (List.mem_cons_of_mem _ hpair')) hnodup.2
    rw [List.foldl_cons]
    refine ⟨hinv', hnow'.trans hnow, ?_, ?_⟩
    · intro key hkey
      rw [List.map_cons, List.mem_cons, not_or] at hkey
      rw [hother key hkey.2, loadEntry_eq hformed]
      split
      · rw [get_set, if_neg hkey.1]
      · rfl
    · intro pair' hpair' hunread hname hisLoaded
      rcases List.mem_cons.mp hpair' with rfl | hpair'
      · -- it is the only pair with its key
        rw [hother pair'.1 hnodup.1, loadEntry_eq hformed, if_pos ⟨hunread, hname, hisLoaded⟩,
          get_set, if_pos rfl]
      · exact hloaded pair' hpair' hunread hname (by rw [hnow]; exact hisLoaded)

/-- The datastore has, for every ban in force, an entry that is read back and lasts as long. -/
def Persisted (unread : List BlacklistKey) (s : BlacklistManager) : Prop :=
  ∀ pair ∈ s.entries, s.now < pair.2.deadline →
    ∃ entry ∈ s.stored pair.1, pair.1 ∉ unread ∧ (loadedName pair.1 entry).isSome
      ∧ pair.2.deadline ≤ entry.deadline

theorem lasts_restart (hs : EntriesInv s) : EntriesInv (s.restart unread)
      ∧ (s.Persisted unread → ∀ key, Lasts key s (s.restart unread)) := by
  -- nothing that is in memory outlives the restart
  have hstart : EntriesInv
      { s with peerBlacklist := .empty, ipBlacklist := .empty, writes := [] } := by
    refine ⟨fun key entry hget => ?_, hs.stored, fun write hwrite => by simp at hwrite⟩
    cases key with
    | peer | ip => simp [get] at hget
  unfold restart loadBlacklistFromDatastore
  dsimp only
  cases hdatastore : s.datastore with
  | none =>
    rw [hdatastore] at hstart
    refine ⟨hstart, fun hpersisted key => ⟨le_rfl, fun entry hentry hnow => ?_⟩⟩
    obtain ⟨entry', hstored, -⟩ := hpersisted (key, entry) (s.mem_entries_iff.mpr hentry) hnow
    simp [stored, hdatastore] at hstored
  | some datastore =>
    have hstored : ∀ key, s.stored key = datastore.get key := by
      intro key
      simp [stored, hdatastore]
    obtain ⟨hinv, hnow', -, hloaded⟩ := loadEntries_spec unread datastore.entries hstart
      (fun pair hpair => hs.stored pair.1 pair.2
        ((hstored pair.1).trans (datastore.mem_entries_iff.mp hpair)))
      datastore.keys_nodup
    rw [hdatastore] at hinv hnow' hloaded
    refine ⟨hinv, fun hpersisted key => ⟨hnow'.ge, fun entry hentry hnow => ?_⟩⟩
    rw [hnow'] at hnow
    -- what is loaded is what had been stored, for as long at least
    obtain ⟨entry', hentry', hunread, hname, hle⟩ :=
      hpersisted (key, entry) (s.mem_entries_iff.mpr hentry) hnow
    have hmem : (key, entry') ∈ datastore.entries :=
      datastore.mem_entries_iff.mpr ((hstored key).symm.trans hentry')
    refine ⟨entry', hloaded (key, entry') hmem hunread hname ?_, hle⟩
    rw [BlacklistEntry.isLoaded_iff]
    exact hnow.trans_le hle

/-! ### Writes -/

theorem lasts_settle {i : ℕ} {write : DatastoreWrite} (landed : Bool)
    (hs : EntriesInv s) (hwrite : s.writes[i]? = some write)
    (hdemotes : ∀ loop, write.next = some loop → ∀ ip,
      loop.addresses.findSome? extractAddressHost = some ip →
        ¬ s.Demotes (.ip ip) loop.reason loop.permanent) :
    EntriesInv (s.settle i write landed) ∧ ∀ key, Lasts key s (s.settle i write landed) := by
  unfold settle
  dsimp only
  generalize hsettled : BlacklistManager.mk s.now s.peerBlacklist s.ipBlacklist _
    (s.writes.eraseIdx i) = settled
  have hget : ∀ key, settled.get key = s.get key := by
    intro key
    subst hsettled
    cases key <;> rfl
  have hmem : write ∈ s.writes := List.mem_of_getElem? hwrite
  have hinv : EntriesInv settled := by
    refine ⟨fun key entry hentry => ?_, fun key entry hentry => ?_, fun write' hwrite' => ?_⟩
    · subst hsettled
      exact hs.memory key entry ((hget key).symm.trans hentry)
    · subst hsettled
      cases landed with
      | false => exact hs.stored key entry hentry
      | true =>
        obtain ⟨datastore', hdatastore', hentry⟩ := Option.bind_eq_some_iff.mp hentry
        obtain ⟨datastore, hdatastore, rfl⟩ := Option.map_eq_some_iff.mp hdatastore'
        have hold : ∀ key entry, datastore.get key = some entry → WellFormed s.now key entry := by
          intro key entry hentry
          exact hs.stored key entry (by simp [stored, hdatastore, hentry])
        -- the write that has landed is the only change to the datastore
        cases hwritten : write.entry with
        | some entry' =>
          rw [hwritten] at hentry
          dsimp only at hentry
          rw [JsMap.get_set] at hentry
          split_ifs at hentry with hkey
          · cases hentry
            exact hkey ▸ hs.writes write hmem _ hwritten
          · exact hold key entry hentry
        | none =>
          rw [hwritten] at hentry
          dsimp only at hentry
          rw [JsMap.get_erase] at hentry
          split_ifs at hentry
          exact hold key entry hentry
    · subst hsettled
      exact hs.writes write' (List.mem_of_mem_eraseIdx hwrite')
  have hlasts : ∀ key, Lasts key s settled := by
    intro key
    exact .of_get_eq (by subst hsettled; exact le_rfl) (hget key)
  cases hnext : write.next with
  | none => exact ⟨hinv, hlasts⟩
  | some loop =>
    dsimp only
    -- the loop over the addresses of a peer goes on when its write is settled
    obtain ⟨hinv', hlasts'⟩ := lasts_blacklistAddresses loop.reason loop.permanent
      loop.addresses hinv (by
        intro ip hip
        have hold := hdemotes loop hnext ip hip
        unfold Demotes at hold ⊢
        rw [hget]
        exact hold)
    exact ⟨hinv', fun key => (hlasts key).trans (hlasts' key)⟩

/-! ### Runs -/

/-- No permanent ban is replaced by a temporary one, and a process starts again only when the
datastore has the bans in force. -/
def Orderly (s : BlacklistManager) : BlacklistEvent → Prop
  | .blacklistPeer peerId reason _ permanent => ¬ s.Demotes (.peer peerId) reason permanent
  | .blacklistIP ip reason permanent => ¬ s.Demotes (.ip ip) reason permanent
  | .writeSettled i _ => ∀ write ∈ s.writes[i]?, ∀ loop ∈ write.next,
      ∀ ip ∈ loop.addresses.findSome? extractAddressHost,
        ¬ s.Demotes (.ip ip) loop.reason loop.permanent
  | .restart unread => s.Persisted unread
  | _ => True

instance decidableDemotes (s : BlacklistManager) (key : BlacklistKey) (reason : DisconnectionCode)
    (permanent : Option Bool) : Decidable (s.Demotes key reason permanent) :=
  inferInstanceAs (Decidable (_ ∧ _))

instance decidablePersisted (s : BlacklistManager) (unread : List BlacklistKey) :
    Decidable (s.Persisted unread) :=
  inferInstanceAs (Decidable (∀ pair ∈ s.entries, s.now < pair.2.deadline →
    ∃ entry ∈ s.stored pair.1, pair.1 ∉ unread ∧ (loadedName pair.1 entry).isSome
      ∧ pair.2.deadline ≤ entry.deadline))

instance decidableOrderly (s : BlacklistManager) : ∀ e, Decidable (s.Orderly e)
  | .blacklistPeer _ _ _ _ => inferInstanceAs (Decidable (¬ _))
  | .blacklistIP _ _ _ => inferInstanceAs (Decidable (¬ _))
  | .writeSettled i _ => inferInstanceAs (Decidable (∀ write ∈ s.writes[i]?, ∀ loop ∈ write.next,
      ∀ ip ∈ loop.addresses.findSome? extractAddressHost,
        ¬ s.Demotes (.ip ip) loop.reason loop.permanent))
  | .restart unread => s.decidablePersisted unread
  | .timePasses _ => isTrue trivial
  | .isBlacklisted _ => isTrue trivial
  | .shouldDenyConnection _ _ => isTrue trivial
  | .whitelist _ => isTrue trivial
  | .cleanupExpiredEntries => isTrue trivial

/-- **Step lemma.** An event leaves every ban in force, unless it lifts it. -/
theorem lasts_step {e : BlacklistEvent} (hs : EntriesInv s)
    (hok : s.Orderly e) (hstep : s.step e = some s') :
    EntriesInv s' ∧ ∀ key, e ≠ .whitelist key → Lasts key s s' := by
  cases e with
  | timePasses ms =>
    cases hstep
    -- time only passes, so that an entry stays as old as it is
    have hnow : s.now ≤ s.now + ms := by omega
    refine ⟨⟨?_, ?_, ?_⟩, fun key _ => .of_get_eq hnow (by cases key <;> rfl)⟩
    · intro key entry hentry
      exact (hs.memory key entry (by cases key <;> exact hentry)).mono hnow
    · intro key entry hentry
      exact (hs.stored key entry hentry).mono hnow
    · intro write hwrite entry hentry
      exact (hs.writes write hwrite entry hentry).mono hnow
  | blacklistPeer peerId reason addresses permanent =>
    cases hstep
    obtain ⟨hinv, hlasts⟩ := lasts_blacklistPeer hs hok
    exact ⟨hinv, fun key _ => hlasts key⟩
  | blacklistIP ip reason permanent =>
    cases hstep
    obtain ⟨hinv, hlasts⟩ := lasts_blacklistIP none hs hok
    exact ⟨hinv, fun key _ => hlasts key⟩
  | isBlacklisted key =>
    cases hstep
    obtain ⟨hinv, hlasts⟩ := lasts_isBlacklisted key hs
    exact ⟨hinv, fun key' _ => hlasts key'⟩
  | shouldDenyConnection peerId multiaddr =>
    cases hstep
    obtain ⟨hinv, hlasts⟩ := lasts_shouldDenyConnection peerId multiaddr hs
    exact ⟨hinv, fun key _ => hlasts key⟩
  | whitelist key =>
    cases hstep
    obtain ⟨hinv, hlasts⟩ := lasts_whitelist key hs
    exact ⟨hinv, fun key' hkey => hlasts key' fun heq => hkey (heq ▸ rfl)⟩
  | cleanupExpiredEntries =>
    cases hstep
    obtain ⟨hinv, hlasts⟩ := lasts_cleanupExpiredEntries hs
    exact ⟨hinv, fun key _ => hlasts key⟩
  | writeSettled i landed =>
    obtain ⟨write, hwrite, rfl⟩ := Option.map_eq_some_iff.mp hstep
    obtain ⟨hinv, hlasts⟩ := lasts_settle landed hs hwrite fun loop hloop ip hip =>
      hok write hwrite loop hloop ip hip
    exact ⟨hinv, fun key _ => hlasts key⟩
  | restart unread =>
    cases hstep
    obtain ⟨hinv, hlasts⟩ := @lasts_restart s unread hs
    exact ⟨hinv, fun key _ => hlasts hok key⟩

variable {t : BlacklistManager} {events : List BlacklistEvent}

theorem entriesInv_runFrom (hs : EntriesInv s) (hmeets : Meets step Orderly s events)
    (hrun : runFrom step s events = some t) : EntriesInv t :=
  invariant_runFrom (P := EntriesInv) (fun _ _ _ hinv hok hstep => (lasts_step hinv hok hstep).1)
    events s t hs hmeets hrun

theorem lasts_runFrom
    (hs : EntriesInv s) (hmeets : Meets step Orderly s events) (hkey : .whitelist key ∉ events)
    (hrun : runFrom step s events = some t) : Lasts key s t := by
  induction events generalizing s with
  | nil =>
    cases hrun
    exact .of_get_eq le_rfl rfl
  | cons e events ih =>
    rw [runFrom_cons, Option.bind_eq_some_iff] at hrun
    obtain ⟨s', hs', hrun'⟩ := hrun
    rw [List.mem_cons, not_or] at hkey
    obtain ⟨hinv, hlasts⟩ := lasts_step hs hmeets.1 hs'
    exact (hlasts key fun heq => hkey.1 heq.symm).trans (ih hinv (hmeets.2 s' hs') hkey.2 hrun')

/-! ### Writes that land in order -/

/-- The entry of the datastore once the writes in flight have landed in their order. -/
def written (s : BlacklistManager) (key : BlacklistKey) : Option BlacklistEntry :=
  s.writes.foldl (fun entry write => if write.key = key then write.entry else entry) (s.stored key)

theorem written_persistEntry (key key' : BlacklistKey) (entry : BlacklistEntry)
    (next : Option AddressLoop) (s : BlacklistManager) :
    ((s.set key entry).persistEntry key entry next).written key' =
      if key' = key then some entry else s.written key' := by
  have hstored : ((s.set key entry).persistEntry key entry next).stored key' = s.stored key' :=
    stored_set key key' entry s
  rw [written, hstored]
  simp [written, persistEntry, eq_comm (a := key)]

theorem written_removeEntry (key key' : BlacklistKey) (s : BlacklistManager) :
    ((s.delete key).removeEntry key).written key' =
      if key' = key then none else s.written key' := by
  have hstored : ((s.delete key).removeEntry key).stored key' = s.stored key' :=
    stored_delete key key' s
  rw [written, hstored]
  simp [written, removeEntry, eq_comm (a := key)]

/-- What is in memory has been written. -/
structure WrittenInv (s : BlacklistManager) : Prop where
  datastore : s.datastore.isSome = true
  written : ∀ key entry, s.get key = some entry → s.written key = some entry

theorem WrittenInv.persistEntry (h : WrittenInv s) (key : BlacklistKey) (entry : BlacklistEntry)
    (next : Option AddressLoop) : WrittenInv ((s.set key entry).persistEntry key entry next) := by
  refine ⟨by cases key <;> exact h.datastore, fun key' entry' hentry => ?_⟩
  rw [get_persistEntry, get_set] at hentry
  rw [written_persistEntry]
  split_ifs at hentry ⊢
  · exact hentry
  · exact h.written key' entry' hentry

theorem WrittenInv.removeEntry (h : WrittenInv s) (key : BlacklistKey) :
    WrittenInv ((s.delete key).removeEntry key) := by
  refine ⟨by cases key <;> exact h.datastore, fun key' entry' hentry => ?_⟩
  rw [get_removeEntry, get_delete] at hentry
  split_ifs at hentry with hkey
  rw [written_removeEntry, if_neg hkey]
  exact h.written key' entry' hentry

theorem WrittenInv.isBlacklisted (h : WrittenInv s) (key : BlacklistKey) :
    WrittenInv (s.isBlacklisted key).2 := by
  unfold BlacklistManager.isBlacklisted
  split
  · exact h
  · split
    · exact h.removeEntry key
    · exact h

theorem WrittenInv.blacklistAddresses (h : WrittenInv s) (reason : DisconnectionCode)
    (permanent : Option Bool) (addresses : List Multiaddr) :
    WrittenInv (s.blacklistAddresses reason permanent addresses) := by
  induction addresses with
  | nil => exact h
  | cons addr addresses ih =>
    rw [BlacklistManager.blacklistAddresses]
    split
    · exact h.persistEntry _ _ _
    · exact ih

theorem WrittenInv.shouldDenyConnection (h : WrittenInv s) (peerId : String)
    (multiaddr : Option Multiaddr) : WrittenInv (s.shouldDenyConnection peerId multiaddr).2 := by
  have hpeer := h.isBlacklisted (.peer peerId)
  unfold BlacklistManager.shouldDenyConnection isPeerBlacklisted isIPBlacklisted
  dsimp only
  split
  · split
    · split
      · exact hpeer.persistEntry _ _ _
      · exact hpeer
    · exact hpeer
  · split
    · exact hpeer.isBlacklisted _
    · exact hpeer

theorem WrittenInv.settle {write : DatastoreWrite} (h : WrittenInv s)
    (hwrite : s.writes[0]? = some write) : WrittenInv (s.settle 0 write true) := by
  obtain ⟨datastore, hdatastore⟩ := Option.isSome_iff_exists.mp h.datastore
  obtain ⟨writes, hwrites⟩ := List.head?_eq_some_iff.mp (List.head?_eq_getElem? ▸ hwrite)
  have hlanded : ∀ landed : JsMap BlacklistKey BlacklistEntry,
      (∀ key, landed.get key = if key = write.key then write.entry else datastore.get key) →
        WrittenInv { s with datastore := some landed, writes } := by
    intro landed hget
    refine ⟨rfl, fun key entry hentry => ?_⟩
    have hwritten := h.written key entry (by cases key <;> exact hentry)
    simp only [BlacklistManager.written, stored, hdatastore, hwrites, List.foldl_cons,
      Option.bind_some] at hwritten ⊢
    rw [← hwritten, hget]
    simp only [eq_comm (a := key)]
  unfold BlacklistManager.settle
  dsimp only
  rw [hdatastore, hwrites]
  cases hentry : write.entry with
  | some entry =>
    have hset := hlanded (datastore.set write.key entry) fun key => by rw [JsMap.get_set, hentry]
    cases write.next with
    | none => exact hset
    | some loop => exact hset.blacklistAddresses _ _ _
  | none =>
    have herase := hlanded (datastore.erase write.key) fun key => by rw [JsMap.get_erase, hentry]
    cases write.next with
    | none => exact herase
    | some loop => exact herase.blacklistAddresses _ _ _

/-- What a process that starts again has read of the datastore so far. -/
structure LoadedFrom (s t : BlacklistManager) : Prop where
  now : t.now = s.now
  writes : t.writes = []
  datastore : t.datastore = s.datastore
  entries : ∀ key entry, t.get key = some entry → s.stored key = some entry

theorem LoadedFrom.loadEntry {t : BlacklistManager} {pair : BlacklistKey × BlacklistEntry}
    (h : LoadedFrom s t) (hs : EntriesInv s) (hpair : s.stored pair.1 = some pair.2) :
    LoadedFrom s (loadEntry unread t pair) := by
  rw [loadEntry_eq (h.now ▸ hs.stored pair.1 pair.2 hpair)]
  split
  · refine ⟨(now_set _ _ t).trans h.now, (writes_set _ _ t).trans h.writes,
      by cases pair.1 <;> exact h.datastore, fun key entry hentry => ?_⟩
    rw [get_set] at hentry
    split_ifs at hentry with hkey
    · cases hentry
      exact hkey ▸ hpair
    · exact h.entries key entry hentry
  · exact h

theorem WrittenInv.restart (hs : EntriesInv s) (h : WrittenInv s) (unread : List BlacklistKey) :
    WrittenInv (s.restart unread) := by
  obtain ⟨datastore, hdatastore⟩ := Option.isSome_iff_exists.mp h.datastore
  have hloaded : LoadedFrom s (s.restart unread) := by
    unfold BlacklistManager.restart loadBlacklistFromDatastore
    dsimp only
    rw [hdatastore]
    refine List.foldlRecOn (motive := LoadedFrom s) datastore.entries _
      ⟨rfl, rfl, hdatastore.symm, fun key _ hentry => by cases key <;> cases hentry⟩ ?_
    intro t ht pair hpair
    exact ht.loadEntry hs (by simpa [stored, hdatastore] using datastore.mem_entries_iff.mp hpair)
  refine ⟨hloaded.datastore ▸ h.datastore, fun key entry hentry => ?_⟩
  rw [BlacklistManager.written, hloaded.writes]
  simpa [stored, hloaded.datastore] using hloaded.entries key entry hentry

/-- Writes land, one after the other. -/
def LandsInOrder : BlacklistEvent → Prop
  | .writeSettled i landed => i = 0 ∧ landed = true
  | _ => True

theorem writtenInv_step {e : BlacklistEvent} (hs : EntriesInv s) (h : WrittenInv s)
    (hlands : LandsInOrder e) (hstep : s.step e = some s') : WrittenInv s' := by
  cases e with
  | timePasses ms =>
    cases hstep
    exact ⟨h.datastore, fun key entry hentry => h.written key entry (by cases key <;> exact hentry)⟩
  | blacklistPeer peerId reason addresses permanent =>
    cases hstep
    exact h.persistEntry _ _ _
  | blacklistIP ip reason permanent =>
    cases hstep
    exact h.persistEntry _ _ _
  | isBlacklisted key =>
    cases hstep
    exact h.isBlacklisted key
  | shouldDenyConnection peerId multiaddr =>
    cases hstep
    exact h.shouldDenyConnection peerId multiaddr
  | whitelist key =>
    cases hstep
    unfold whitelist
    split
    · exact h.removeEntry key
    · exact h
  | cleanupExpiredEntries =>
    cases hstep
    exact List.foldlRecOn _ _ h fun s h entry _ => h.removeEntry entry.1
  | writeSettled i landed =>
    obtain ⟨rfl, rfl⟩ := hlands
    obtain ⟨write, hwrite, rfl⟩ := Option.map_eq_some_iff.mp hstep
    exact h.settle hwrite
  | restart unread =>
    cases hstep
    exact h.restart hs unread

/-- **A process that restarts keeps the bans** where its writes have landed in order: those the
datastore returns, with a name. -/
theorem persisted_of_runFrom {now : ℕ}
    (hmeets : Meets step (fun s e => s.Orderly e ∧ LandsInOrder e) (initial now) events)
    (hrun : runFrom step (initial now) events = some s) (hlanded : s.writes = [])
    (hread : ∀ pair ∈ s.entries, pair.1 ∉ unread ∧ (loadedName pair.1 pair.2).isSome) :
    s.Persisted unread := by
  have hinv : EntriesInv s ∧ WrittenInv s :=
    invariant_runFrom (P := fun s => EntriesInv s ∧ WrittenInv s) (fun _ _ _ hinv hok hstep =>
      ⟨(lasts_step hinv.1 hok.1 hstep).1, writtenInv_step hinv.1 hinv.2 hok.2 hstep⟩)
      events _ _ ⟨entriesInv_initial now, rfl, fun key _ hentry => by cases key <;> cases hentry⟩
      hmeets hrun
  intro pair hpair _
  have hwritten := hinv.2.written pair.1 pair.2 (s.mem_entries_iff.mp hpair)
  rw [written, hlanded] at hwritten
  exact ⟨pair.2, hwritten, (hread pair hpair).1, (hread pair hpair).2, le_rfl⟩

/-! ### Bans -/

/-- Whatever has an entry at some moment of a run is denied at every later moment before the deadline
of the entry, unless it has been whitelisted. A permanent entry has no deadline. -/
def BansHold (now : ℕ) (events : List BlacklistEvent) : Prop :=
  ∀ before after s t, before ++ after = events → runFrom step (initial now) before = some s →
    runFrom step s after = some t → ∀ key entry, s.get key = some entry →
      .whitelist key ∉ after → t.now < entry.deadline → t.Denies key

/-- **Bans hold** along every orderly run. -/
theorem bansHold {now : ℕ} {events : List BlacklistEvent}
    (hmeets : Meets step Orderly (initial now) events) : BansHold now events := by
  rintro before after s t rfl hbefore hafter key entry hentry hkey hnow
  have hinv := entriesInv_runFrom (entriesInv_initial now) hmeets.left hbefore
  obtain ⟨-, hlasts⟩ := lasts_runFrom hinv (hmeets.right hbefore) hkey hafter
  obtain ⟨entry', hentry', hle⟩ := hlasts entry hentry hnow
  exact denies_of_get hentry' (hnow.le.trans hle)

/-- A temporary ban of a peer and of its address, a permanent one of the peer, and a restart after
their writes have landed. -/
def restarted : List BlacklistEvent :=
  [.blacklistPeer "peer" .FLOOD (some [⟨[⟨"ip4", some "10.0.0.1"⟩], "/ip4/10.0.0.1"⟩]) none,
    .writeSettled 0 true, .writeSettled 0 true,
    .blacklistPeer "peer" .BAD_SIGNATURE none none, .writeSettled 0 true, .timePasses 1000,
    .restart [], .timePasses DEFAULT_EXPIRY]

theorem bansHold_restarted : BansHold 0 restarted := bansHold (by decide)

/-- A peer is blacklisted for a bad signature and then, with a chain that is not permanent, for a
flood; both writes land, and a day passes. -/
def demoted : List BlacklistEvent :=
  [.blacklistPeer "peer" .BAD_SIGNATURE none none, .writeSettled 0 true,
    .blacklistPeer "peer" .FLOOD none none, .writeSettled 0 true,
    .timePasses (DEFAULT_EXPIRY + 1)]

theorem not_bansHold_demoted : ¬ BansHold 0 demoted := by
  intro h
  have hdenies := h (demoted.take 1) (demoted.drop 1) _ _ rfl rfl rfl (.peer "peer") _ rfl
    (by decide) (WithTop.coe_lt_top _) none
  exact absurd hdenies (by decide)


end BlacklistManager

end OpnetNode
