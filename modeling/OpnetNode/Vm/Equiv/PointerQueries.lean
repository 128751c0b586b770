import OpnetNode.Vm.Equiv.StoragePointers
import OpnetNode.Vm.PointerPreload

/-!
# Queries for pointers

`getByContractsAndPointers` sorts, groups and fills a map that is keyed by array objects;
`getByContractAndPointer` looks for one document.  `mem_aggregate_iff` says which documents the
aggregation returns, `getByContractsAndPointers_spec` what the map of a contract then holds
(`Answered`): null for the arrays that were asked for, and after them one entry for each pointer with a
document.  Reading the map in its order gives what the single query gives (`query_agreement`).
-/

namespace OpnetNode

/-! ### The newest document -/

/-- Newer documents come first. -/
def NewestFirst (doc doc' : PointerDocument) : Prop := doc'.lastSeenAt ≤ doc.lastSeenAt

section

variable {docs : List PointerDocument} {doc : PointerDocument} {q : PointerDocument → Bool}

local instance : DecidableRel NewestFirst := fun doc doc' =>
  inferInstanceAs (Decidable (doc'.lastSeenAt ≤ doc.lastSeenAt))

local instance : Std.Total NewestFirst := ⟨fun a b => le_total b.lastSeenAt a.lastSeenAt⟩

local instance : IsTrans PointerDocument NewestFirst := ⟨fun _ _ _ h h' => le_trans h' h⟩

theorem find?_orderedInsert_of_not (h : q doc = false) (docs : List PointerDocument) :
    (docs.orderedInsert NewestFirst doc).find? q = docs.find? q := by
  induction docs with
  | nil => simp [h]
  | cons d docs ih =>
    rw [List.orderedInsert_cons]
    split_ifs
    · simp [h]
    · rw [List.find?_cons, List.find?_cons, ih]

theorem find?_orderedInsert_newest (h : q doc = true)
    (hnewest : ∀ latest, docs.find? q = some latest → latest.lastSeenAt ≤ doc.lastSeenAt) :
    (docs.orderedInsert NewestFirst doc).find? q = some doc := by
  induction docs with
  | nil => simp [h]
  | cons d docs ih =>
    rw [List.orderedInsert_cons]
    split_ifs with hd
    · simp [h]
    · cases hqd : q d with
      | true =>
        have hle : d.lastSeenAt ≤ doc.lastSeenAt := hnewest d (by simp [hqd])
        exact absurd hle hd
      | false =>
        rw [List.find?_cons, hqd]
        apply ih
        intro latest hlatest
        apply hnewest
        rw [List.find?_cons, hqd]
        exact hlatest

theorem find?_orderedInsert_older {latest : PointerDocument} (hsorted : docs.Pairwise NewestFirst)
    (hlatest : docs.find? q = some latest) (hlt : ¬ latest.lastSeenAt ≤ doc.lastSeenAt) :
    (docs.orderedInsert NewestFirst doc).find? q = some latest := by
  induction docs with
  | nil => cases hlatest
  | cons d docs ih =>
    rw [List.pairwise_cons] at hsorted
    rw [List.orderedInsert_cons]
    have hd : ¬ NewestFirst doc d := by
      intro hle
      apply hlt
      rcases List.mem_cons.mp (List.mem_of_find?_eq_some hlatest) with rfl | hmem
      · exact hle
      · exact le_trans (hsorted.1 latest hmem) hle
    rw [if_neg hd]
    rw [List.find?_cons] at hlatest ⊢
    cases hqd : q d with
    | true =>
      rw [hqd] at hlatest
      exact hlatest
    | false =>
      rw [hqd] at hlatest
      exact ih hsorted.2 hlatest

theorem find?_insertionSort (q : PointerDocument → Bool) (docs : List PointerDocument) :
    (docs.insertionSort NewestFirst).find? q = latestDocument (docs.filter q) := by
  induction docs with
  | nil => rfl
  | cons doc docs ih =>
    rw [List.insertionSort_cons]
    cases hq : q doc with
    | false => rw [find?_orderedInsert_of_not hq, ih, List.filter_cons_of_neg (by simp [hq])]
    | true =>
      rw [List.filter_cons_of_pos hq, latestDocument, ← ih]
      cases hfind : (docs.insertionSort NewestFirst).find? q with
      | none =>
        refine find?_orderedInsert_newest hq fun latest hlatest => ?_
        cases hfind.symm.trans hlatest
      | some latest =>
        dsimp only
        split_ifs with hle
        · refine find?_orderedInsert_newest hq fun latest' hlatest => ?_
          rw [hfind] at hlatest
          cases hlatest
          exact hle
        · exact find?_orderedInsert_older (List.pairwise_insertionSort _ docs) hfind hle

end

/-! ### `getByContractsAndPointers` -/

namespace VMStorage

/-- The document that `getByContractAndPointer` finds. -/
def newestDocument (db : VMStorage) (contractAddress pointer : Bytes) (height : Option Nat) :
    Option PointerDocument :=
  latestDocument (db.pointers.filter fun doc =>
    doc.contractAddress = contractAddress ∧ u256ToBytes doc.pointer = pointer ∧
      doc.isBelow height)

theorem getByContractAndPointer_eq (db : VMStorage) (a b : Bytes) (height : Option Nat) :
    db.getByContractAndPointer a b height =
      (db.newestDocument a b height).map PointerDocument.value := rfl

variable {height : Option Nat} {doc : PointerDocument}

theorem of_newestDocument {db : VMStorage} {a b : Bytes}
    (h : db.newestDocument a b height = some doc) :
    doc.contractAddress = a ∧ u256ToBytes doc.pointer = b := by
  have hmem := mem_of_latestDocument h
  rw [List.mem_filter, decide_eq_true_eq] at hmem
  exact ⟨hmem.2.1, hmem.2.2.1⟩

theorem getByContractAndPointer_u256ToBytes (db : VMStorage) (a : Bytes) (p : U256) (n : Nat) :
    db.getByContractAndPointer a (u256ToBytes p) (some n) = db.getStorage a p n := by
  have hfilter : (db.pointers.filter fun doc => doc.contractAddress = a ∧
      u256ToBytes doc.pointer = u256ToBytes p ∧ doc.isBelow (some n)) =
      db.pointers.filter fun doc =>
        doc.contractAddress = a ∧ doc.pointer = p ∧ doc.lastSeenAt < n := by
    apply List.filter_congr
    intro doc _
    simp only [u256ToBytes_injective.eq_iff, PointerDocument.isBelow, Option.all_some,
      decide_eq_true_eq]
  exact congrArg (fun docs => (latestDocument docs).map PointerDocument.value) hfilter

theorem get_firstOfGroups (docs : List PointerDocument) (k : Bytes × U256) :
    (firstOfGroups docs).get k = docs.find? fun doc => doc.slotKey = k := by
  suffices h : ∀ groups : JsMap (Bytes × U256) PointerDocument,
      (docs.foldl (fun groups doc =>
        if groups.has doc.slotKey then groups else groups.set doc.slotKey doc) groups).get k =
      (groups.get k).or (docs.find? fun doc => doc.slotKey = k) from (h .empty).trans Option.none_or
  induction docs with
  | nil => exact fun groups => Option.or_none.symm
  | cons doc docs ih =>
    intro groups
    rw [List.foldl_cons, ih, List.find?_cons]
    by_cases hk : doc.slotKey = k
    · subst hk
      cases hget : groups.get doc.slotKey with
      | none | some => simp [JsMap.has, hget]
    · have hk' : k ≠ doc.slotKey := fun heq => hk heq.symm
      rw [decide_eq_false hk]
      split_ifs
      · rfl
      · rw [JsMap.get_set_of_ne _ _ hk']

/-- A clause of the query asks for the slot of a document. -/
def Asked (pointers : PointerList) (doc : PointerDocument) : Prop :=
  ∃ list, pointers.get doc.contractAddress = some list ∧
    u256ToBytes doc.pointer ∈ list.map PointerArray.bytes

theorem get_firstOfGroups_sorted (docs : List PointerDocument) (matched : PointerDocument → Bool)
    (k : Bytes × U256) :
    (firstOfGroups ((docs.filter matched).insertionSort fun doc doc' =>
        doc'.lastSeenAt ≤ doc.lastSeenAt)).get k =
      latestDocument (docs.filter fun doc => matched doc && decide (doc.slotKey = k)) := by
  rw [get_firstOfGroups]
  refine (find?_insertionSort _ _).trans ?_
  rw [List.filter_filter]
  congr 2
  funext doc
  exact Bool.and_comm _ _

variable {pointers : PointerList}

theorem asked_of_matchesClause
    (h : matchesClause pointers height doc = true) : Asked pointers doc := by
  obtain ⟨clause, hin, hclause⟩ := List.any_eq_true.mp h
  rw [decide_eq_true_eq] at hclause
  exact ⟨clause.2, pointers.mem_entries_iff.mp (hclause.1 ▸ hin), hclause.2.1⟩

theorem filter_matchesClause_of_asked (hasked : Asked pointers doc) (docs : List PointerDocument) :
    (docs.filter fun d => matchesClause pointers height d && decide (d.slotKey = doc.slotKey)) =
      docs.filter fun d => d.contractAddress = doc.contractAddress ∧
        u256ToBytes d.pointer = u256ToBytes doc.pointer ∧ d.isBelow height := by
  obtain ⟨list, hget, hbytes⟩ := hasked
  apply List.filter_congr
  intro d _
  rw [Bool.eq_iff_iff, Bool.and_eq_true, decide_eq_true_eq, decide_eq_true_eq, matchesClause,
    List.any_eq_true]
  constructor
  · rintro ⟨⟨clause, -, hclause⟩, hkey⟩
    rw [decide_eq_true_eq] at hclause
    obtain ⟨haddress, hpointer⟩ := Prod.mk.inj hkey
    exact ⟨haddress, congrArg u256ToBytes hpointer, hclause.2.2⟩
  · rintro ⟨haddress, hpointer, hbelow⟩
    refine ⟨⟨(doc.contractAddress, list), pointers.mem_entries_iff.mpr hget, ?_⟩, ?_⟩
    · rw [decide_eq_true_eq, hpointer]
      exact ⟨haddress, hbytes, hbelow⟩
    · exact Prod.ext haddress (u256ToBytes_injective hpointer)

theorem mem_aggregate_iff {P : PreloadEnvironment} {db : VMStorage} :
    doc ∈ aggregate P db pointers height ↔ Asked pointers doc ∧
      db.newestDocument doc.contractAddress (u256ToBytes doc.pointer) height = some doc := by
  unfold aggregate
  rw [(P.groupOrder_perm _).mem_iff]
  constructor
  · intro hmem
    obtain ⟨⟨k, d⟩, hentry, rfl⟩ := List.mem_map.mp hmem
    have hget := (firstOfGroups _).mem_entries_iff.mp hentry
    rw [get_firstOfGroups_sorted] at hget
    have hfound := mem_of_latestDocument hget
    rw [List.mem_filter, Bool.and_eq_true, decide_eq_true_eq] at hfound
    obtain ⟨-, hclause, rfl⟩ := hfound
    have hasked := asked_of_matchesClause hclause
    refine ⟨hasked, ?_⟩
    unfold newestDocument
    rw [← filter_matchesClause_of_asked hasked]
    exact hget
  · rintro ⟨hasked, hnewest⟩
    apply List.mem_map.mpr
    refine ⟨(doc.slotKey, doc), ?_, rfl⟩
    rw [JsMap.mem_entries_iff, get_firstOfGroups_sorted, filter_matchesClause_of_asked hasked]
    exact hnewest

/-! ### The map of a contract -/

/-- No array that was asked for comes after one that was fetched. -/
def RequestedFirst (k k' : PointerKey) : Prop := k'.isRequested = true → k.isRequested = true

/-- What the queries found for the arrays of one contract. -/
structure Answered (db : VMStorage) (a : Bytes) (height : Option Nat) (arrays : List PointerArray)
    (map : PointerMap) : Prop where
  requested : ∀ array, map.get (.requested array) = if array ∈ arrays then some none else none
  fetched : ∀ b, map.get (.fetched b) =
    if b ∈ arrays.map PointerArray.bytes then (db.getByContractAndPointer a b height).map some
    else none
  ordered : map.keys.Pairwise RequestedFirst

theorem get_requestedAsNull (arrays : List PointerArray) (k : PointerKey) :
    (requestedAsNull arrays).get k =
      if k ∈ arrays.map PointerKey.requested then some none else none := by
  have hfold : requestedAsNull arrays =
      (arrays.map fun array => (PointerKey.requested array, none)).foldl
        (fun map entry => map.set entry.1 entry.2) .empty := by
    rw [List.foldl_map]
    rfl
  rw [hfold, JsMap.get_foldl_set (v := none)]
  · rw [List.map_map]
    rfl
  · intro e he _
    obtain ⟨array, -, rfl⟩ := List.mem_map.mp he
    rfl

/-- The entry that a document is taken over into. -/
def fetchedEntry (doc : PointerDocument) : PointerKey × Option U256 :=
  (.fetched (u256ToBytes doc.pointer), some doc.value)

/-- The documents of a contract are taken over into its map. -/
def fill (results : List PointerDocument) (map : PointerMap) : PointerMap :=
  (results.map fetchedEntry).foldl (fun map entry => map.set entry.1 entry.2) map

theorem get_foldl_takeResult (results : List PointerDocument) (m : ProvenPointers) (a : Bytes) :
    (results.foldl takeResult m).get a =
      (m.get a).map (fill (results.filter fun doc => doc.contractAddress = a)) := by
  induction results generalizing m with
  | nil => exact Option.map_id.symm ▸ rfl
  | cons doc results ih =>
    rw [List.foldl_cons, ih]
    unfold takeResult
    by_cases ha : doc.contractAddress = a
    · subst ha
      rw [List.filter_cons_of_pos (by simp)]
      cases hget : m.get doc.contractAddress with
      | none => simp [hget]
      | some map =>
        dsimp only
        rw [JsMap.get_set_self]
        rfl
    · have ha' : a ≠ doc.contractAddress := fun heq => ha heq.symm
      rw [List.filter_cons_of_neg (by simpa using ha)]
      cases m.get doc.contractAddress with
      | none => rfl
      | some map =>
        dsimp only
        rw [JsMap.get_set_of_ne _ _ ha']

section Fill

variable {results : List PointerDocument} {arrays : List PointerArray}

theorem mem_keys_fetchedEntry {k : PointerKey} :
    k ∈ (results.map fetchedEntry).map Prod.fst ↔
      ∃ doc ∈ results, PointerKey.fetched (u256ToBytes doc.pointer) = k := by
  rw [List.map_map, List.mem_map]
  rfl

theorem get_fill_of_not_mem {map : PointerMap} {k : PointerKey}
    (hnot : k ∉ (results.map fetchedEntry).map Prod.fst) : (fill results map).get k = map.get k := by
  unfold fill
  rw [JsMap.get_foldl_set (v := none), if_neg hnot]
  intro e he heq
  exact absurd (heq ▸ List.mem_map_of_mem he) hnot

theorem get_fill_requested (array : PointerArray) :
    (fill results (requestedAsNull arrays)).get (.requested array) =
      if array ∈ arrays then some none else none := by
  have hnot : PointerKey.requested array ∉ (results.map fetchedEntry).map Prod.fst := by
    rw [mem_keys_fetchedEntry]
    rintro ⟨doc, -, heq⟩
    cases heq
  rw [get_fill_of_not_mem hnot, get_requestedAsNull]
  simp

theorem get_fill_fetched_of_not_mem {b : Bytes}
    (h : ∀ doc ∈ results, u256ToBytes doc.pointer ≠ b) :
    (fill results (requestedAsNull arrays)).get (.fetched b) = none := by
  have hnot : PointerKey.fetched b ∉ (results.map fetchedEntry).map Prod.fst := by
    rw [mem_keys_fetchedEntry]
    rintro ⟨doc, hdoc, heq⟩
    exact h doc hdoc (PointerKey.fetched.inj heq)
  rw [get_fill_of_not_mem hnot, get_requestedAsNull]
  simp

theorem get_fill_fetched_of_mem {doc : PointerDocument} (hdoc : doc ∈ results)
    (h : ∀ doc' ∈ results, u256ToBytes doc'.pointer = u256ToBytes doc.pointer → doc' = doc) :
    (fill results (requestedAsNull arrays)).get (.fetched (u256ToBytes doc.pointer)) =
      some (some doc.value) := by
  have hin : PointerKey.fetched (u256ToBytes doc.pointer) ∈
      (results.map fetchedEntry).map Prod.fst := mem_keys_fetchedEntry.mpr ⟨doc, hdoc, rfl⟩
  unfold fill
  rw [JsMap.get_foldl_set (v := some doc.value), if_pos hin]
  intro e he hkey
  obtain ⟨doc', hdoc', rfl⟩ := List.mem_map.mp he
  rw [h doc' hdoc' (PointerKey.fetched.inj hkey)]
  rfl

theorem requestedFirst_fill :
    (fill results (requestedAsNull arrays)).keys.Pairwise RequestedFirst := by
  have hfetched : ∀ k ∈ (results.map fetchedEntry).map Prod.fst, k.isRequested = false := by
    intro k hk
    obtain ⟨doc, -, rfl⟩ := mem_keys_fetchedEntry.mp hk
    rfl
  apply JsMap.pairwise_keys_foldl_set
  rw [List.pairwise_append]
  refine ⟨?_, ?_, ?_⟩
  · refine List.Pairwise.imp_of_mem (R := fun _ _ => True) (fun {k k'} hk _ _ _ => ?_)
      (List.pairwise_of_forall fun _ _ => trivial)
    rw [JsMap.mem_keys_iff, get_requestedAsNull] at hk
    split_ifs at hk with harray
    · obtain ⟨array, -, rfl⟩ := List.mem_map.mp harray
      rfl
    · cases hk
  · refine List.Pairwise.imp_of_mem (R := fun _ _ => True) (fun {k k'} _ hk' _ hrequested => ?_)
      (List.pairwise_of_forall fun _ _ => trivial)
    rw [hfetched k' hk'] at hrequested
    cases hrequested
  · intro k _ k' hk' hrequested
    rw [hfetched k' hk'] at hrequested
    cases hrequested

end Fill

variable {P : PreloadEnvironment} {db : VMStorage} {pointers : PointerList} {height : Option Nat}
  {a : Bytes} {arrays : List PointerArray}

theorem mem_results_iff (hget : pointers.get a = some arrays) (doc : PointerDocument) :
    doc ∈ ((aggregate P db pointers height).filter fun doc => doc.contractAddress = a) ↔
      doc.contractAddress = a ∧ u256ToBytes doc.pointer ∈ arrays.map PointerArray.bytes ∧
        db.newestDocument a (u256ToBytes doc.pointer) height = some doc := by
  rw [List.mem_filter, mem_aggregate_iff, decide_eq_true_eq]
  constructor
  · rintro ⟨⟨⟨list, hlist, hbytes⟩, hnewest⟩, rfl⟩
    rw [hget] at hlist
    cases hlist
    exact ⟨rfl, hbytes, hnewest⟩
  · rintro ⟨rfl, hbytes, hnewest⟩
    exact ⟨⟨⟨arrays, hget, hbytes⟩, hnewest⟩, rfl⟩

theorem answered_fill (hget : pointers.get a = some arrays) : Answered db a height arrays
      (fill ((aggregate P db pointers height).filter fun doc => doc.contractAddress = a)
        (requestedAsNull arrays)) := by
  refine ⟨get_fill_requested, fun b => ?_, requestedFirst_fill⟩
  rw [getByContractAndPointer_eq]
  -- the array is fetched exactly if it is asked for and has a newest document
  by_cases hfound : b ∈ arrays.map PointerArray.bytes ∧ (db.newestDocument a b height).isSome
  · obtain ⟨hbytes, hsome⟩ := hfound
    obtain ⟨doc, hnewest⟩ := Option.isSome_iff_exists.mp hsome
    obtain ⟨haddress, rfl⟩ := of_newestDocument hnewest
    have hdoc := (mem_results_iff (P := P) hget doc).mpr ⟨haddress, hbytes, hnewest⟩
    rw [if_pos hbytes, hnewest, get_fill_fetched_of_mem hdoc]
    · rfl
    · intro doc' hdoc' hpointer
      have hnewest' := ((mem_results_iff hget doc').mp hdoc').2.2
      rw [hpointer, hnewest] at hnewest'
      exact (Option.some.inj hnewest').symm
  · rw [get_fill_fetched_of_not_mem]
    · split_ifs with hbytes
      · have hnone : db.newestDocument a b height = none :=
          Option.not_isSome_iff_eq_none.mp fun hsome => hfound ⟨hbytes, hsome⟩
        rw [hnone]
        rfl
      · rfl
    · rintro doc hdoc rfl
      obtain ⟨-, hbytes, hnewest⟩ := (mem_results_iff hget doc).mp hdoc
      exact hfound ⟨hbytes, by rw [hnewest]; rfl⟩

theorem getByContractsAndPointers_spec {found : ProvenPointers}
    (h : getByContractsAndPointers P db pointers height = some found) (a : Bytes) :
    (pointers.get a = none → found.get a = none) ∧
      ∀ arrays, pointers.get a = some arrays →
        ∃ map, found.get a = some map ∧ Answered db a height arrays map := by
  unfold getByContractsAndPointers at h
  split_ifs at h
  cases h
  have hinitial : (pointers.entries.foldl (fun (provenPointers : ProvenPointers) entry =>
      provenPointers.set entry.1 (requestedAsNull entry.2)) .empty).get a =
      (pointers.get a).map requestedAsNull := by
    rw [JsMap.read_foldl_at (g := fun arrays _ => some (requestedAsNull arrays))
      (fun (m : ProvenPointers) k => m.get k) (fun m e k => JsMap.get_set m e.1 k _) _
      pointers.keys_nodup]
    show (JsMap.get pointers a).elim none _ = _
    cases pointers.get a <;> rfl
  rw [get_foldl_takeResult, hinitial]
  constructor
  · intro hnone
    rw [hnone]
    rfl
  · intro arrays hget
    rw [hget]
    exact ⟨_, rfl, answered_fill hget⟩

/-! ### Both queries agree -/

/-- The value that the map of a contract gives to a pointer: iterated in order, the last entry with
its bytes decides. -/
def valueAt (found : Option ProvenPointers) (a b : Bytes) : Option U256 :=
  ((found.bind fun m => m.get a).bind fun map =>
    map.lastWhere fun k => k.bytes = b).bind Prod.snd

theorem Answered.lastWhere_bytes {map : PointerMap} (h : Answered db a height arrays map)
    {array : PointerArray} (harray : array ∈ arrays) :
    (map.lastWhere fun k => k.bytes = array.bytes).bind Prod.snd =
      db.getByContractAndPointer a array.bytes height := by
  have hfetched := h.fetched array.bytes
  rw [if_pos (List.mem_map_of_mem harray)] at hfetched
  cases hvalue : db.getByContractAndPointer a array.bytes height with
  | some value =>
    rw [hvalue, Option.map_some] at hfetched
    have hkey : PointerKey.fetched array.bytes ∈ map.keys := by
      rw [JsMap.mem_keys_iff, hfetched]
      rfl
    obtain ⟨⟨k, v⟩, hlast, hafter⟩ := JsMap.exists_lastWhere (q := fun k => k.bytes = array.bytes)
      h.ordered hkey (decide_eq_true rfl)
    obtain ⟨hbytes, hentry⟩ := JsMap.of_lastWhere_eq_some hlast
    rw [decide_eq_true_eq] at hbytes
    rw [hlast]
    cases k with
    | fetched b =>
      obtain rfl : b = array.bytes := hbytes
      rw [hfetched] at hentry
      exact (Option.some.inj hentry).symm
    | requested array' =>
      -- What was asked for does not come after what was fetched.
      rcases hafter with heq | hafter
      · cases heq
      · cases hafter rfl
  | none =>
    rw [hvalue, Option.map_none] at hfetched
    cases hlast : map.lastWhere fun k => k.bytes = array.bytes with
    | none => rfl
    | some entry =>
      obtain ⟨hbytes, hentry⟩ := JsMap.of_lastWhere_eq_some hlast
      rw [decide_eq_true_eq] at hbytes
      obtain ⟨k, v⟩ := entry
      cases k with
      | fetched b =>
        obtain rfl : b = array.bytes := hbytes
        cases hfetched.symm.trans hentry
      | requested array' =>
        rw [h.requested] at hentry
        split_ifs at hentry
        exact (Option.some.inj hentry).symm

/-- For every list and every height, the two queries agree on each pair that was asked for. -/
def QueriesAgree (P : PreloadEnvironment) (db : VMStorage) (pointers : PointerList) : Prop :=
  ∀ (height : Option Nat) (a : Bytes) (arrays : List PointerArray),
    pointers.get a = some arrays → ∀ array ∈ arrays,
      valueAt (getByContractsAndPointers P db pointers height) a array.bytes =
        db.getByContractAndPointer a array.bytes height

theorem query_agreement (P : PreloadEnvironment) (db : VMStorage) (pointers : PointerList) :
    QueriesAgree P db pointers := by
  intro height a arrays hget array harray
  cases hfound : getByContractsAndPointers P db pointers height with
  | none =>
    unfold getByContractsAndPointers at hfound
    split_ifs at hfound with hsize
    have hnil : pointers.entries = [] := List.length_eq_zero_iff.mp hsize
    have hentry := pointers.mem_entries_iff.mpr hget
    rw [hnil] at hentry
    cases hentry
  | some found =>
    obtain ⟨map, hmap, hanswered⟩ := (getByContractsAndPointers_spec hfound a).2 arrays hget
    unfold valueAt
    rw [Option.bind_some, hmap, Option.bind_some]
    exact hanswered.lastWhere_bytes harray

end VMStorage

end OpnetNode
