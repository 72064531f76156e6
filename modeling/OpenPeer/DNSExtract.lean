import Mathlib.Algebra.Ring.Nat
import OpenPeer.DNSResults

/-!
# Extracting the addresses of an SRV result

The records of an SRV result point to their A and AAAA results, and an address is extracted
where the result is. The objects are in a list; a pointer is a place in it. A clone has
objects of its own, so the result it was made of stays as it is.

An address is handed out as it is. Its port was filled in when the result was attached to the
record, or it was not.
-/
namespace OpenPeer.DNSExtract

open DNS (AResult)

abbrev AResultPtr := Nat

/-- The A and AAAA results there are. -/
abbrev Objects := List AResult

def Objects.read (objects : Objects) (ptr : AResultPtr) : AResult := objects.getD ptr {}

def Objects.withAddresses (objects : Objects) (ptr : AResultPtr) (ips : List ICESocket.IPAddress) : Objects :=
  objects.set ptr { objects.read ptr with mIPAddresses := ips }

structure SRVRecord where
  mName : String := ""
  mPriority : Nat := 0
  mWeight : Nat := 0
  mPort : Nat := 0
  mAResult : Option AResultPtr := none
  mAAAAResult : Option AResultPtr := none

structure SRVResult where
  mName : String := ""
  mService : String := ""
  mProtocol : String := ""
  mTTL : Nat := 0
  mRecords : List SRVRecord := []

namespace SRVRecord

variable (record : SRVRecord)

def useResult : Option AResultPtr := record.mAResult.or record.mAAAAResult

def resetUsed : SRVRecord :=
  if record.mAResult.isSome then { record with mAResult := none } else { record with mAAAAResult := none }

def pointers : List AResultPtr := record.mAResult.toList ++ record.mAAAAResult.toList

end SRVRecord

/-- What a call leaves: the address, if it returns true, and which result it is from. -/
structure Extracted where
  outIP : Option ICESocket.IPAddress := none
  outAResult : Option AResultPtr := none
  outAAAAResult : Option AResultPtr := none
  objects : Objects
  mRecords : List SRVRecord

def extractNextIP (objects : Objects) : List SRVRecord → Extracted
  | [] => { objects, mRecords := [] }
  | record :: records =>
    match _ : record.useResult with
    | none => extractNextIP objects records
    | some ptr =>
      match (objects.read ptr).mIPAddresses with
      | [] => extractNextIP objects (record.resetUsed :: records)
      | ip :: ips =>
        { outIP := some ip
          outAResult := record.mAResult
          outAAAAResult := if record.mAResult.isSome then none else record.mAAAAResult
          objects := objects.withAddresses ptr ips
          mRecords := record :: records }
termination_by records => (records.map fun record => record.pointers.length + 1).sum
decreasing_by
  · simp
  · obtain ⟨_, _, _, _, _ | _, _ | _⟩ := record <;>
      simp_all [SRVRecord.useResult, SRVRecord.resetUsed, SRVRecord.pointers]

/-- The address of each call, when it is called a number of times, and what is left. -/
def calls : Nat → Objects → List SRVRecord → List (Option ICESocket.IPAddress) × Objects × List SRVRecord
  | 0, objects, records => ([], objects, records)
  | n + 1, objects, records =>
    let extracted := extractNextIP objects records
    let later := calls n extracted.objects extracted.mRecords
    (extracted.outIP :: later.1, later.2)

/-- A new object with what another has. -/
def cloneA (objects : Objects) : Option AResultPtr → Option AResultPtr × Objects
  | none => (none, objects)
  | some ptr => (some objects.length, objects ++ [objects.read ptr])

def cloneRecord (objects : Objects) (record : SRVRecord) : SRVRecord × Objects :=
  let a := cloneA objects record.mAResult
  let aaaa := cloneA a.2 record.mAAAAResult
  ({ record with mAResult := a.1, mAAAAResult := aaaa.1 }, aaaa.2)

def cloneRecords (objects : Objects) : List SRVRecord → List SRVRecord × Objects
  | [] => ([], objects)
  | record :: records =>
    let clone := cloneRecord objects record
    let clones := cloneRecords clone.2 records
    (clone.1 :: clones.1, clones.2)

def cloneSRV (objects : Objects) (srvResult : SRVResult) : SRVResult × Objects :=
  let clones := cloneRecords objects srvResult.mRecords
  ({ srvResult with mRecords := clones.1 }, clones.2)

section Views

/-- The records with the results that they point to. -/
def SRVRecord.view (objects : Objects) (record : SRVRecord) : DNS.SRVRecord where
  mName := record.mName
  mPriority := record.mPriority
  mWeight := record.mWeight
  mPort := record.mPort
  mAResult := record.mAResult.map objects.read
  mAAAAResult := record.mAAAAResult.map objects.read

def SRVResult.view (objects : Objects) (srvResult : SRVResult) : DNS.SRVResult where
  mName := srvResult.mName
  mService := srvResult.mService
  mProtocol := srvResult.mProtocol
  mTTL := srvResult.mTTL
  mRecords := srvResult.mRecords.map (SRVRecord.view objects)

/-- The addresses of a record, those of the A result before those of the AAAA result. -/
def addresses (record : DNS.SRVRecord) : List ICESocket.IPAddress :=
  (record.mAResult.map AResult.mIPAddresses).getD [] ++ (record.mAAAAResult.map AResult.mIPAddresses).getD []

end Views

section Extracting

variable (objects : Objects)

def pointers (records : List SRVRecord) : List AResultPtr := records.flatMap SRVRecord.pointers

/-- The addresses that pointers lead to, where those of a result are found once. -/
def addressesOf : Objects → List AResultPtr → List ICESocket.IPAddress
  | _, [] => []
  | objects, ptr :: ptrs => (objects.read ptr).mIPAddresses ++ addressesOf (objects.withAddresses ptr []) ptrs

@[simp] theorem length_withAddresses (ptr : AResultPtr) (ips : List ICESocket.IPAddress) :
    (objects.withAddresses ptr ips).length = objects.length := by
  simp [Objects.withAddresses]

variable {ptr : AResultPtr}

theorem read_withAddresses_ne {other : AResultPtr} (ips : List ICESocket.IPAddress) (h : other ≠ ptr) :
    (objects.withAddresses ptr ips).read other = objects.read other := by
  simp [Objects.withAddresses, Objects.read, List.getD_eq_getElem?_getD, List.getElem?_set_ne (Ne.symm h)]

theorem read_withAddresses_self (ips : List ICESocket.IPAddress) (h : ptr < objects.length) :
    (objects.withAddresses ptr ips).read ptr = { objects.read ptr with mIPAddresses := ips } := by
  simp [Objects.withAddresses, Objects.read, List.getD_eq_getElem?_getD, h]

theorem lt_of_addresses {ip : ICESocket.IPAddress} {ips : List ICESocket.IPAddress}
    (h : (objects.read ptr).mIPAddresses = ip :: ips) : ptr < objects.length := by
  by_contra hnot
  simp [Objects.read, List.getD_eq_getElem?_getD, List.getElem?_eq_none (Nat.le_of_not_lt hnot)] at h

theorem withAddresses_twice (ptr : AResultPtr) (ips ips' : List ICESocket.IPAddress) :
    (objects.withAddresses ptr ips).withAddresses ptr ips' = objects.withAddresses ptr ips' := by
  by_cases hlt : ptr < objects.length
  · rw [Objects.withAddresses, read_withAddresses_self objects ips hlt, Objects.withAddresses, List.set_set,
      Objects.withAddresses]
  · simp [Objects.withAddresses, List.set_eq_of_length_le (Nat.le_of_not_lt hlt)]

theorem withAddresses_same {ips : List ICESocket.IPAddress} (h : (objects.read ptr).mIPAddresses = ips) :
    objects.withAddresses ptr ips = objects := by
  subst h
  apply List.ext_getElem?
  intro other
  by_cases hsame : ptr = other
  · subst hsame
    by_cases hlt : ptr < objects.length
    · simp [Objects.withAddresses, Objects.read, List.getD_eq_getElem?_getD, hlt]
    · simp [Objects.withAddresses, hlt]
  · rw [Objects.withAddresses, List.getElem?_set_ne hsame]

theorem pointers_used {record : SRVRecord} (h : record.useResult = some ptr) :
    record.pointers = ptr :: record.resetUsed.pointers := by
  obtain ⟨_, _, _, _, _ | _, _ | _⟩ := record <;>
    simp_all [SRVRecord.useResult, SRVRecord.resetUsed, SRVRecord.pointers]

theorem pointers_unused {record : SRVRecord} (h : record.useResult = none) : record.pointers = [] := by
  obtain ⟨_, _, _, _, _ | _, _ | _⟩ := record <;> simp_all [SRVRecord.useResult, SRVRecord.pointers]

section Cases

variable {record : SRVRecord} {ptr : AResultPtr} (records : List SRVRecord)

theorem extractNextIP_unused (hused : record.useResult = none) :
    extractNextIP objects (record :: records) = extractNextIP objects records := by
  rw [extractNextIP]
  split <;> simp_all

theorem extractNextIP_emptied (hused : record.useResult = some ptr) (hnone : (objects.read ptr).mIPAddresses = []) :
    extractNextIP objects (record :: records) = extractNextIP objects (record.resetUsed :: records) := by
  rw [extractNextIP]
  split <;> simp_all

theorem extractNextIP_found {ip : ICESocket.IPAddress} {ips : List ICESocket.IPAddress}
    (hused : record.useResult = some ptr) (hsome : (objects.read ptr).mIPAddresses = ip :: ips) :
    extractNextIP objects (record :: records) =
      { outIP := some ip
        outAResult := record.mAResult
        outAAAAResult := if record.mAResult.isSome then none else record.mAAAAResult
        objects := objects.withAddresses ptr ips
        mRecords := record :: records } := by
  rw [extractNextIP]
  split <;> simp_all

end Cases

variable (records : List SRVRecord)

theorem extractNextIP_eq :
    (extractNextIP objects records).outIP = (addressesOf objects (pointers records)).head? ∧
      addressesOf (extractNextIP objects records).objects (pointers (extractNextIP objects records).mRecords) =
        (addressesOf objects (pointers records)).tail := by
  induction records using extractNextIP.induct objects with
  | case1 => simp [extractNextIP, pointers, addressesOf]
  | case2 record records hused ih =>
    rw [extractNextIP_unused objects records hused]
    simpa [pointers, pointers_unused hused] using ih
  | case3 record records ptr hused hnone ih =>
    rw [extractNextIP_emptied objects records hused hnone]
    simpa [hnone, pointers, pointers_used hused, addressesOf, withAddresses_same objects hnone] using ih
  | case4 record records ptr hused ip ips hsome =>
    have hlt := lt_of_addresses objects hsome
    rw [extractNextIP_found objects records hused hsome]
    simp [hsome, pointers, pointers_used hused, addressesOf, read_withAddresses_self objects ips hlt,
      withAddresses_twice]

theorem calls_eq (n : Nat) (records : List SRVRecord) :
    (calls n objects records).1 = (List.range n).map fun i => (addressesOf objects (pointers records))[i]? := by
  induction n generalizing objects records with
  | zero => rfl
  | succ n ih =>
    obtain ⟨hhead, htail⟩ := extractNextIP_eq objects records
    simp only [calls, ih, hhead, htail, List.range_succ_eq_map, List.map_cons, List.map_map, List.head?_eq_getElem?]
    simp [Function.comp_def]

/-- Only what the records point to is changed. -/
structure Frames (objects objects' : Objects) (records records' : List SRVRecord) : Prop where
  length : objects'.length = objects.length
  read : ∀ ptr ∉ pointers records, objects'.read ptr = objects.read ptr
  pointers : ∀ ptr ∈ pointers records', ptr ∈ pointers records

theorem Frames.trans {objects objects' objects'' : Objects} {records records' records'' : List SRVRecord}
    (h : Frames objects objects' records records') (h' : Frames objects' objects'' records' records'') :
    Frames objects objects'' records records'' where
  length := h'.length.trans h.length
  read ptr hptr := (h'.read ptr fun hmem => hptr (h.pointers ptr hmem)).trans (h.read ptr hptr)
  pointers ptr hptr := h.pointers ptr (h'.pointers ptr hptr)

theorem extractNextIP_frames :
    Frames objects (extractNextIP objects records).objects records (extractNextIP objects records).mRecords := by
  induction records using extractNextIP.induct objects with
  | case1 =>
    rw [extractNextIP]
    exact ⟨rfl, fun _ _ => rfl, fun _ hptr => hptr⟩
  | case2 record records hused ih =>
    rw [extractNextIP_unused objects records hused]
    have hpop : Frames objects objects (record :: records) records :=
      ⟨rfl, fun _ _ => rfl, fun _ hptr => by simpa [pointers, pointers_unused hused] using hptr⟩
    exact hpop.trans ih
  | case3 record records ptr hused hnone ih =>
    rw [extractNextIP_emptied objects records hused hnone]
    have hreset : Frames objects objects (record :: records) (record.resetUsed :: records) :=
      ⟨rfl, fun _ _ => rfl, fun _ hptr => by
        simp only [pointers, List.flatMap_cons, pointers_used hused] at hptr ⊢
        exact List.mem_cons_of_mem _ hptr⟩
    exact hreset.trans ih
  | case4 record records ptr hused ip ips hsome =>
    rw [extractNextIP_found objects records hused hsome]
    refine ⟨length_withAddresses objects ptr ips, ?_, fun _ hptr => hptr⟩
    intro other hother
    apply read_withAddresses_ne
    rintro rfl
    simp [pointers, pointers_used hused] at hother

theorem calls_frames (n : Nat) (records : List SRVRecord) :
    Frames objects (calls n objects records).2.1 records (calls n objects records).2.2 := by
  induction n generalizing objects records with
  | zero => exact ⟨rfl, fun _ _ => rfl, fun _ hptr => hptr⟩
  | succ n ih => exact (extractNextIP_frames objects records).trans (ih _ _)

theorem addressesOf_nodup (ptrs : List AResultPtr) (h : ptrs.Nodup) :
    addressesOf objects ptrs = ptrs.flatMap fun ptr => (objects.read ptr).mIPAddresses := by
  induction ptrs generalizing objects with
  | nil => rfl
  | cons ptr ptrs ih =>
    obtain ⟨hnot, hnodup⟩ := List.nodup_cons.mp h
    rw [addressesOf, ih _ hnodup, List.flatMap_cons]
    congr 1
    apply List.flatMap_congr
    intro other hother
    have hne : other ≠ ptr := by
      rintro rfl
      exact hnot hother
    rw [read_withAddresses_ne objects [] hne]

theorem addresses_view :
    (records.map (SRVRecord.view objects)).flatMap addresses =
      (pointers records).flatMap fun ptr => (objects.read ptr).mIPAddresses := by
  induction records with
  | nil => rfl
  | cons record records ih =>
    simp only [pointers, List.map_cons, List.flatMap_cons, List.flatMap_append] at ih ⊢
    rw [ih]
    congr 1
    cases ha : record.mAResult <;> cases haaaa : record.mAAAAResult <;>
      simp [addresses, SRVRecord.view, SRVRecord.pointers, ha, haaaa]

end Extracting

section Cloning

/-- The records point to objects that there are. -/
def Held (objects : Objects) (records : List SRVRecord) : Prop := ∀ ptr ∈ pointers records, ptr < objects.length

instance (objects : Objects) (records : List SRVRecord) : Decidable (Held objects records) :=
  inferInstanceAs (Decidable (∀ ptr ∈ pointers records, ptr < objects.length))

variable {objects : Objects}

theorem read_append {ptr : AResultPtr} (h : ptr < objects.length) (more : List AResult) :
    Objects.read (objects ++ more) ptr = objects.read ptr := by
  simp [Objects.read, List.getD_eq_getElem?_getD, List.getElem?_append_left h]

variable {records : List SRVRecord}

theorem view_congr {objects' : Objects} (h : ∀ ptr ∈ pointers records, objects'.read ptr = objects.read ptr) :
    records.map (SRVRecord.view objects') = records.map (SRVRecord.view objects) := by
  apply List.map_congr_left
  intro record hrecord
  have hread : ∀ ptr ∈ record.pointers, objects'.read ptr = objects.read ptr :=
    fun ptr hptr => h ptr (List.mem_flatMap.mpr ⟨record, hrecord, hptr⟩)
  cases ha : record.mAResult <;> cases haaaa : record.mAAAAResult <;>
    simp_all [SRVRecord.view, SRVRecord.pointers]

theorem view_append (h : Held objects records) (more : List AResult) :
    records.map (SRVRecord.view (objects ++ more)) = records.map (SRVRecord.view objects) :=
  view_congr fun ptr hptr => read_append (h ptr hptr) more

theorem cloneRecord_eq {record : SRVRecord} (h : ∀ ptr ∈ record.pointers, ptr < objects.length) :
    (cloneRecord objects record).2 = objects ++ record.pointers.map objects.read ∧
      (cloneRecord objects record).1.pointers = List.range' objects.length record.pointers.length ∧
      (cloneRecord objects record).1.view (cloneRecord objects record).2 = record.view objects := by
  obtain ⟨mName, mPriority, mWeight, mPort, _ | a, _ | aaaa⟩ := record <;>
    simp_all [cloneRecord, cloneA, SRVRecord.pointers, SRVRecord.view, Objects.read, List.getD_eq_getElem?_getD,
      List.getElem?_append_left, List.range']

theorem cloneRecords_eq (h : Held objects records) :
    (cloneRecords objects records).2 = objects ++ (pointers records).map objects.read ∧
      pointers (cloneRecords objects records).1 = List.range' objects.length (pointers records).length ∧
      (cloneRecords objects records).1.map (SRVRecord.view (cloneRecords objects records).2) =
        records.map (SRVRecord.view objects) := by
  induction records generalizing objects with
  | nil => simp [cloneRecords, pointers]
  | cons record records ih =>
    have hrecord : ∀ ptr ∈ record.pointers, ptr < objects.length :=
      fun ptr hptr => h ptr (List.mem_append_left _ hptr)
    have hrecords : Held objects records := fun ptr hptr => h ptr (List.mem_append_right _ hptr)
    obtain ⟨hobjects, hpointers, hview⟩ := cloneRecord_eq hrecord
    let clone := cloneRecord objects record
    have hlength : clone.2.length = objects.length + record.pointers.length := by
      simp [clone, hobjects]
    have hheld : Held clone.2 records := by
      intro ptr hptr
      rw [hlength]
      exact Nat.lt_add_right _ (hrecords ptr hptr)
    obtain ⟨hobjects', hpointers', hview'⟩ := ih hheld
    have hread : (pointers records).map clone.2.read = (pointers records).map objects.read := by
      apply List.map_congr_left
      intro ptr hptr
      simp only [clone, hobjects]
      exact read_append (hrecords ptr hptr) _
    have hnew : Held clone.2 [clone.1] := by
      intro ptr hptr
      simp only [pointers, List.flatMap_cons, List.flatMap_nil, List.append_nil, clone, hpointers,
        List.mem_range'_1] at hptr
      rw [hlength]
      exact hptr.2
    refine ⟨?_, ?_, ?_⟩
    · change (cloneRecords clone.2 records).2 = _
      rw [hobjects', hread]
      simp [clone, hobjects, pointers]
    · change clone.1.pointers ++ pointers (cloneRecords clone.2 records).1 = _
      rw [hpointers', hlength]
      simp only [clone, hpointers, List.range'_append_1]
      simp [pointers]
    · change clone.1.view (cloneRecords clone.2 records).2 ::
        (cloneRecords clone.2 records).1.map (SRVRecord.view (cloneRecords clone.2 records).2) = _
      have hfirst := view_append hnew ((pointers records).map clone.2.read)
      rw [List.map_singleton, List.map_singleton, List.singleton_inj] at hfirst
      have hrest : (cloneRecords clone.2 records).1.map (SRVRecord.view (cloneRecords clone.2 records).2) =
          records.map (SRVRecord.view objects) := by
        rw [hview']
        simp only [clone, hobjects]
        exact view_append hrecords _
      rw [hrest, hobjects', hfirst, List.map_cons]
      exact congrArg (· :: _) hview

end Cloning

section Draining

/-- An SRV result whose records point to objects that there are. -/
structure Shared where
  objects : Objects
  result : SRVResult
  held : Held objects result.mRecords

namespace Shared

variable (s : Shared)

/-- All addresses of all records, in order. -/
def allAddresses : List ICESocket.IPAddress := (s.result.view s.objects).mRecords.flatMap addresses

/-- The clone of the result, in the memory in which both are. -/
def clone : Shared where
  objects := (cloneSRV s.objects s.result).2
  result := (cloneSRV s.objects s.result).1
  held := by
    obtain ⟨hobjects, hpointers, -⟩ := cloneRecords_eq s.held
    intro ptr hptr
    have hmem : ptr ∈ List.range' s.objects.length (pointers s.result.mRecords).length := hpointers ▸ hptr
    have hlt := (List.mem_range'_1.mp hmem).2
    simpa [cloneSRV, hobjects] using hlt

/-- What a number of calls of `extractNextIP` return. -/
def extracted (n : Nat) : List (Option ICESocket.IPAddress) := (calls n s.objects s.result.mRecords).1

/-- The objects after the calls. -/
def objectsAfter (n : Nat) : Objects := (calls n s.objects s.result.mRecords).2.1

end Shared

/-- The calls return each of the addresses once and in order, and then that there is none. -/
def Drains (s : Shared) (ips : List ICESocket.IPAddress) : Prop :=
  ∀ n, s.extracted n = (List.range n).map fun i => ips[i]?

variable (s : Shared)

theorem Shared.drains : Drains s (addressesOf s.objects (pointers s.result.mRecords)) :=
  fun n => calls_eq s.objects n s.result.mRecords

theorem Shared.drains_all (h : (pointers s.result.mRecords).Nodup) : Drains s s.allAddresses := by
  intro n
  rw [s.drains, addressesOf_nodup s.objects _ h, Shared.allAddresses, SRVResult.view, addresses_view]

theorem Shared.clone_nodup : (pointers s.clone.result.mRecords).Nodup := by
  obtain ⟨-, hpointers, -⟩ := cloneRecords_eq s.held
  simp only [Shared.clone, cloneSRV, hpointers]
  exact List.nodup_range'

theorem Shared.clone_view : s.clone.result.view s.clone.objects = s.result.view s.objects := by
  obtain ⟨-, -, hview⟩ := cloneRecords_eq s.held
  simp only [Shared.clone, cloneSRV, SRVResult.view, hview]

theorem Shared.clone_frames (n : Nat) : s.result.view (s.clone.objectsAfter n) = s.result.view s.objects := by
  obtain ⟨hobjects, hpointers, -⟩ := cloneRecords_eq s.held
  have hframes := calls_frames s.clone.objects n s.clone.result.mRecords
  have hread : ∀ ptr ∈ pointers s.result.mRecords, (s.clone.objectsAfter n).read ptr = s.objects.read ptr := by
    intro ptr hptr
    have hlt := s.held ptr hptr
    have hnew : ptr ∉ pointers s.clone.result.mRecords := by
      intro hmem
      have hrange : ptr ∈ List.range' s.objects.length (pointers s.result.mRecords).length := hpointers ▸ hmem
      exact absurd hlt (Nat.not_lt.mpr (List.mem_range'_1.mp hrange).1)
    calc (s.clone.objectsAfter n).read ptr = s.clone.objects.read ptr := hframes.read ptr hnew
      _ = s.objects.read ptr := by
        simp only [Shared.clone, cloneSRV, hobjects]
        exact read_append hlt _
  simp only [SRVResult.view, view_congr hread]

/-- The addresses of a result are extracted one after the other, from a clone without changing the result. -/
theorem extractNextIP_drains (s : Shared) :
    Drains s (addressesOf s.objects (pointers s.result.mRecords)) ∧
      ((pointers s.result.mRecords).Nodup → Drains s s.allAddresses) ∧
      Drains s.clone s.allAddresses ∧
      ∀ n, s.result.view (s.clone.objectsAfter n) = s.result.view s.objects := by
  refine ⟨s.drains, s.drains_all, ?_, s.clone_frames⟩
  have hclone := s.clone.drains_all s.clone_nodup
  rwa [Shared.allAddresses, s.clone_view] at hclone

/-- All addresses, each with the port of its record when it has none. -/
def Shared.portedAddresses (s : Shared) : List ICESocket.IPAddress :=
  (s.result.view s.objects).mRecords.flatMap fun record => addresses (record.fixDefaultPort record.mPort)

/-- A record with a port and an address without one. -/
def portless : Shared where
  objects := [{ mIPAddresses := [⟨1, 0⟩] }]
  result := { mRecords := [{ mPort := 5060, mAResult := some 0 }] }
  held := by decide

/-- Two records that point to one result. -/
def sharing : Shared where
  objects := [{ mIPAddresses := [⟨1, 5060⟩] }]
  result := { mRecords := [{ mAResult := some 0 }, { mAResult := some 0 }] }
  held := by decide

/-- The port of a record is not filled in, and what two records point to is extracted once. -/
theorem ports_stay : ¬Drains portless portless.portedAddresses ∧ ¬Drains sharing sharing.allAddresses := by
  constructor
  · intro h
    have hfirst := (portless.drains 1).symm.trans (h 1)
    exact absurd hfirst (by decide)
  · intro h
    have hsecond := (sharing.drains 2).symm.trans (h 2)
    exact absurd hsecond (by decide)

end Draining

end OpenPeer.DNSExtract
