import Mathlib.Data.List.Induction
import OpenPeer.DrawnSort
import OpenPeer.ICESocketBinding

/-!
# The results of DNS look-ups

An A or an AAAA result is a list of addresses, and an SRV result a list of records with the
results of the look-ups of their names. Results are merged one into the other, and the
records of an SRV result are sorted with a comparison that draws.
-/
namespace OpenPeer.DNS

structure AResult where
  mName : String := ""
  mTTL : Nat := 0
  mIPAddresses : List ICESocket.IPAddress := []
  deriving DecidableEq

structure SRVRecord where
  mName : String := ""
  mPriority : Nat := 0
  mWeight : Nat := 0
  mPort : Nat := 0
  mAResult : Option AResult := none
  mAAAAResult : Option AResult := none
  deriving DecidableEq

structure SRVResult where
  mName : String := ""
  mService : String := ""
  mProtocol : String := ""
  mTTL : Nat := 0
  mRecords : List SRVRecord := []
  deriving DecidableEq

/-- What a query has. -/
structure Results where
  mA : Option AResult := none
  mAAAA : Option AResult := none
  mSRV : Option SRVResult := none
  deriving DecidableEq

def Results.hasResult (results : Results) : Bool :=
  results.mA.isSome || results.mAAAA.isSome || results.mSRV.isSome

section Sorting

/-- Records of one priority are compared by a number that is drawn. -/
def srvCompare (first second : SRVRecord) (random : Nat) : Bool :=
  if first.mPriority < second.mPriority then true
  else if second.mPriority < first.mPriority then false
  else if first.mWeight + second.mWeight = 0 then random % 2 = 0
  else random % (first.mWeight + second.mWeight) < first.mWeight

def sortSRV (draws : Nat → Nat) (result : SRVResult) : SRVResult :=
  { result with mRecords := DrawnSort.sort srvCompare draws result.mRecords }

theorem sortSRV_perm (draws : Nat → Nat) (result : SRVResult) :
    (sortSRV draws result).mRecords.Perm result.mRecords :=
  DrawnSort.sort_perm srvCompare draws result.mRecords

end Sorting

section Ports

def AResult.fixDefaultPort (defaultPort : Nat) (result : AResult) : AResult :=
  { result with
    mIPAddresses := result.mIPAddresses.map fun ip => if ip.port = 0 then { ip with port := defaultPort } else ip }

def SRVRecord.fixDefaultPort (defaultPort : Nat) (record : SRVRecord) : SRVRecord :=
  { record with
    mAResult := record.mAResult.map (AResult.fixDefaultPort defaultPort)
    mAAAAResult := record.mAAAAResult.map (AResult.fixDefaultPort defaultPort) }

end Ports

section Merging

def AResult.merge (ioResult add : AResult) : AResult where
  mName := if ioResult.mName = "" then add.mName else ioResult.mName
  mTTL := if ioResult.mTTL < add.mTTL then add.mTTL else ioResult.mTTL
  mIPAddresses := ioResult.mIPAddresses ++ add.mIPAddresses

def SRVResult.merge (ioResult add : SRVResult) : SRVResult where
  mName := if ioResult.mName = "" then add.mName else ioResult.mName
  mService := if ioResult.mService = "" then add.mService else ioResult.mService
  mProtocol := if ioResult.mProtocol = "" then add.mProtocol else ioResult.mProtocol
  mTTL := if ioResult.mTTL < add.mTTL then add.mTTL else ioResult.mTTL
  mRecords := ioResult.mRecords ++ add.mRecords

variable {α : Type}

/-- Only a result that is there is merged, and it is the merged result when there is no other yet. -/
def mergeInto (merge : α → α → α) : Option α → Option α → Option α
  | io, none => io
  | none, some add => some add
  | some io, some add => some (merge io add)

theorem isSome_mergeInto (merge : α → α → α) (io add : Option α) :
    (mergeInto merge io add).isSome = (io.isSome || add.isSome) := by
  cases io <;> cases add <;> rfl

/-- The items of a result that may be absent. -/
def itemsOf {β : Type} (items : α → List β) (result : Option α) : List β := result.elim [] items

variable {β : Type}

theorem itemsOf_mergeInto {merge : α → α → α} {items : α → List β}
    (hitems : ∀ io add, items (merge io add) = items io ++ items add) (io add : Option α) :
    itemsOf items (mergeInto merge io add) = itemsOf items io ++ itemsOf items add := by
  cases io <;> cases add <;> simp [itemsOf, mergeInto, hitems]

/-- The results of a query are merged into others. -/
def Results.merge (io add : Results) : Results where
  mA := mergeInto AResult.merge io.mA add.mA
  mAAAA := mergeInto AResult.merge io.mAAAA add.mAAAA
  mSRV := mergeInto SRVResult.merge io.mSRV add.mSRV

def Results.a (results : Results) : List ICESocket.IPAddress := itemsOf AResult.mIPAddresses results.mA

def Results.aaaa (results : Results) : List ICESocket.IPAddress := itemsOf AResult.mIPAddresses results.mAAAA

def Results.srv (results : Results) : List SRVRecord := itemsOf SRVResult.mRecords results.mSRV

/-- The results of queries, merged in the order in which the queries are complete. -/
def gather (results : Nat → Results) (done : List Nat) : Results :=
  done.foldl (fun io query => io.merge (results query)) {}

variable (results : Nat → Results)

variable (done : List Nat)

theorem gather_snoc (query : Nat) :
    gather results (done ++ [query]) = (gather results done).merge (results query) := by
  simp [gather]

theorem gather_items {items : Results → List β} (hempty : items {} = [])
    (hmerge : ∀ io add : Results, items (io.merge add) = items io ++ items add) (done : List Nat) :
    items (gather results done) = done.flatMap fun query => items (results query) := by
  induction done using List.reverseRecOn with
  | nil => exact hempty
  | append_singleton done query ih =>
    rw [gather_snoc, List.flatMap_append, ← ih, List.flatMap_singleton]
    exact hmerge _ _

theorem gather_any {has : Results → Bool} (hempty : has {} = false)
    (hmerge : ∀ io add : Results, has (io.merge add) = (has io || has add)) (done : List Nat) :
    has (gather results done) = done.any fun query => has (results query) := by
  induction done using List.reverseRecOn with
  | nil => exact hempty
  | append_singleton done query ih =>
    rw [gather_snoc, List.any_append, ← ih, List.any_cons, List.any_nil, Bool.or_false]
    exact hmerge _ _

theorem gather_a : (gather results done).a = done.flatMap fun query => (results query).a :=
  gather_items results rfl (fun _ _ => itemsOf_mergeInto (fun _ _ => rfl) _ _) done

theorem gather_aaaa : (gather results done).aaaa = done.flatMap fun query => (results query).aaaa :=
  gather_items results rfl (fun _ _ => itemsOf_mergeInto (fun _ _ => rfl) _ _) done

theorem gather_srv : (gather results done).srv = done.flatMap fun query => (results query).srv :=
  gather_items results rfl (fun _ _ => itemsOf_mergeInto (fun _ _ => rfl) _ _) done

theorem isSome_gather_mSRV :
    (gather results done).mSRV.isSome = done.any fun query => (results query).mSRV.isSome :=
  @gather_any results (fun io => io.mSRV.isSome) rfl (fun _ _ => isSome_mergeInto _ _ _) done

theorem hasResult_gather :
    (gather results done).hasResult = done.any fun query => (results query).hasResult := by
  apply gather_any results rfl
  intro io add
  simp only [Results.hasResult, Results.merge, isSome_mergeInto]
  ac_rfl

end Merging

end OpenPeer.DNS
