import Mathlib.Data.List.Induction
import AirQuality.Foundation.Transition

/-!
# OpenThread readiness

`onThreadStateChanged` raises or clears `OPENTHREAD_READY_EVENT` at every OpenThread callback,
and `main` waits for it before it starts MQTT. `NetworkReady` is what the bit stands for, read off
the whole callback sequence; the bit misses it exactly when the address was announced by an
earlier callback than the last.
-/

namespace AirQuality.Network
open Foundation

inductive OtDeviceRole where
  | disabled | detached | child | router | leader
  deriving DecidableEq, Repr

/-- `otChangedFlags`, and the bits of a `k_event`. -/
abbrev Word := BitVec 32

def otChangedIp6AddressAdded : Word := 1 <<< 0
def otChangedThreadRole : Word := 1 <<< 2

def openthreadReadyEvent : Word := 1 <<< 0

abbrev ExtAddress := List UInt8
abbrev OnMeshPrefix := List UInt8

/-- What one callback finds: its flags, the role the instance reports, and what the two
iterators of the instance yield before they end. -/
structure StateChange where
  flags : Word
  role : OtDeviceRole
  neighbors : List ExtAddress
  prefixes : List OnMeshPrefix
  deriving DecidableEq, Repr

/-- The file's static state: `has_role` of the callback, and the `events` object. -/
structure Status where
  hasRole : Bool := false
  events : Word := 0
  deriving DecidableEq, Repr

/-- The loop of `check_neighbors` and `check_routes`: whether the iterator yields anything.
Without logging it stops at the first element. -/
def iterationYields {α : Type} (configLog : Bool) (found : Bool) : List α → Bool
  | [] => found
  | _ :: rest => if !configLog then true else iterationYields configLog true rest

def checkNeighbors (configLog : Bool) (neighbors : List ExtAddress) : Bool :=
  iterationYields configLog false neighbors

def checkRoutes (configLog : Bool) (prefixes : List OnMeshPrefix) : Bool :=
  iterationYields configLog false prefixes

def kEventPost (events raised : Word) : Word := events ||| raised

def kEventSet (_events value : Word) : Word := value

def hasRoleOf : OtDeviceRole → Bool
  | .leader | .child | .router => true
  | .disabled | .detached => false

/-- `has_role`, read again only when the role changed. -/
def hasRoleAfter (s : Status) (change : StateChange) : Bool :=
  if change.flags &&& otChangedThreadRole != 0 then hasRoleOf change.role else s.hasRole

def onThreadStateChanged (configLog : Bool) (s : Status) (change : StateChange) : Status :=
  let hasNeighbors := checkNeighbors configLog change.neighbors
  let routeAvailable := checkRoutes configLog change.prefixes
  let hasAddress := change.flags &&& otChangedIp6AddressAdded != 0
  let hasRole := hasRoleAfter s change
  if hasRole && hasNeighbors && routeAvailable && hasAddress then
    { hasRole, events := kEventPost s.events openthreadReadyEvent }
  else
    { hasRole, events := kEventSet s.events 0 }

def openthreadIsReady (s : Status) : Bool := s.events &&& openthreadReadyEvent != 0

/-- `none` while the call blocks: it waits without a timeout for the bit. -/
def openthreadWaitForReady (s : Status) : Option Int :=
  if s.events &&& openthreadReadyEvent != 0 then some 0 else none

def afterChanges (configLog : Bool) (changes : List StateChange) : Status :=
  run (onThreadStateChanged configLog) {} changes

def RaisesAddress (change : StateChange) : Prop :=
  change.flags &&& otChangedIp6AddressAdded ≠ 0

def CarriesRole (change : StateChange) : Prop := change.flags &&& otChangedThreadRole ≠ 0

instance (change : StateChange) : Decidable (RaisesAddress change) := inferInstanceAs (Decidable (_ ≠ _))
instance (change : StateChange) : Decidable (CarriesRole change) := inferInstanceAs (Decidable (_ ≠ _))

/-- The role read at the most recent callback that carries a role change. -/
def currentRole (changes : List StateChange) : Option OtDeviceRole :=
  ((changes.filter (fun change => decide (CarriesRole change))).getLast?).map StateChange.role

def Attached (changes : List StateChange) : Prop :=
  currentRole changes = some .leader ∨ currentRole changes = some .child ∨
    currentRole changes = some .router

/-- The station can reach the network after the callbacks `earlier` and then `last`. -/
structure NetworkReady (earlier : List StateChange) (last : StateChange) : Prop where
  attached : Attached (earlier ++ [last])
  neighbor : last.neighbors ≠ []
  route : last.prefixes ≠ []
  address : ∃ change ∈ earlier ++ [last], RaisesAddress change

/-- The event bit says whether the network is ready, and a ready network does not block `main`. -/
def ReflectsNetwork (configLog : Bool) (earlier : List StateChange) (last : StateChange) : Prop :=
  (openthreadIsReady (afterChanges configLog (earlier ++ [last])) = true ↔ NetworkReady earlier last) ∧
    (NetworkReady earlier last →
      openthreadWaitForReady (afterChanges configLog (earlier ++ [last])) = some 0)

theorem iterationYields_iff {α : Type} (configLog found : Bool) (xs : List α) :
    iterationYields configLog found xs = true ↔ found = true ∨ xs ≠ [] := by
  induction xs generalizing found with
  | nil => simp [iterationYields]
  | cons x rest ih => cases configLog <;> simp [iterationYields, ih]

theorem checkNeighbors_iff (configLog : Bool) (neighbors : List ExtAddress) :
    checkNeighbors configLog neighbors = true ↔ neighbors ≠ [] := by
  simp [checkNeighbors, iterationYields_iff]

theorem checkRoutes_iff (configLog : Bool) (prefixes : List OnMeshPrefix) :
    checkRoutes configLog prefixes = true ↔ prefixes ≠ [] := by
  simp [checkRoutes, iterationYields_iff]

theorem posted_is_set (events : Word) :
    (kEventPost events openthreadReadyEvent &&& openthreadReadyEvent != 0) = true := by
  have absorbed : (events ||| openthreadReadyEvent) &&& openthreadReadyEvent = openthreadReadyEvent := by
    ext i
    simp only [BitVec.getElem_and, BitVec.getElem_or, Bool.and_eq_right_iff_imp, Bool.or_eq_true]
    exact Or.inr
  rw [kEventPost, absorbed]
  decide

theorem onThreadStateChanged_hasRole (configLog : Bool) (s : Status) (change : StateChange) :
    (onThreadStateChanged configLog s change).hasRole =
      if CarriesRole change then hasRoleOf change.role else s.hasRole := by
  have kept : (onThreadStateChanged configLog s change).hasRole = hasRoleAfter s change := by
    simp only [onThreadStateChanged]
    split <;> rfl
  rw [kept, hasRoleAfter]
  by_cases carries : CarriesRole change
  · rw [if_pos (bne_iff_ne.mpr carries), if_pos carries]
  · rw [if_neg (fun same => carries (bne_iff_ne.mp same)), if_neg carries]

theorem onThreadStateChanged_ready (configLog : Bool) (s : Status) (change : StateChange) :
    openthreadIsReady (onThreadStateChanged configLog s change) = true ↔
      (onThreadStateChanged configLog s change).hasRole = true ∧ change.neighbors ≠ [] ∧
        change.prefixes ≠ [] ∧ RaisesAddress change := by
  rw [← checkNeighbors_iff configLog, ← checkRoutes_iff configLog]
  simp only [onThreadStateChanged, RaisesAddress, openthreadIsReady]
  split
  · rename_i all
    simp only [Bool.and_eq_true, bne_iff_ne] at all
    simp only [posted_is_set, true_iff]
    exact ⟨all.1.1.1, all.1.1.2, all.1.2, all.2⟩
  · rename_i miss
    simp only [Bool.and_eq_true, bne_iff_ne] at miss
    constructor
    · intro set
      simp [kEventSet] at set
    · intro ready
      obtain ⟨role, neighbors, routes, address⟩ := ready
      exact absurd ⟨⟨⟨role, neighbors⟩, routes⟩, address⟩ miss

/-! ### The callback sequence -/

theorem currentRole_append (earlier : List StateChange) (last : StateChange) :
    currentRole (earlier ++ [last]) =
      if CarriesRole last then some last.role else currentRole earlier := by
  unfold currentRole
  by_cases carries : CarriesRole last <;> simp [List.filter_append, carries]

theorem attached_iff (changes : List StateChange) :
    Attached changes ↔ (currentRole changes).any hasRoleOf = true := by
  unfold Attached
  cases currentRole changes with
  | none => simp
  | some role => cases role <;> simp [hasRoleOf]

theorem afterChanges_append (configLog : Bool) (earlier : List StateChange) (last : StateChange) :
    afterChanges configLog (earlier ++ [last]) =
      onThreadStateChanged configLog (afterChanges configLog earlier) last := by
  simp [afterChanges, run_append]

theorem hasRole_iff_attached (configLog : Bool) (changes : List StateChange) :
    (afterChanges configLog changes).hasRole = true ↔ Attached changes := by
  rw [attached_iff]
  induction changes using List.reverseRecOn with
  | nil => simp [afterChanges, currentRole]
  | append_singleton earlier last ih =>
    rw [afterChanges_append, onThreadStateChanged_hasRole, currentRole_append]
    split
    · simp
    · exact ih

theorem ready_iff (configLog : Bool) (earlier : List StateChange) (last : StateChange) :
    openthreadIsReady (afterChanges configLog (earlier ++ [last])) = true ↔
      Attached (earlier ++ [last]) ∧ last.neighbors ≠ [] ∧ last.prefixes ≠ [] ∧ RaisesAddress last := by
  rw [← hasRole_iff_attached configLog, afterChanges_append]
  exact onThreadStateChanged_ready configLog _ last

theorem waitForReady_iff (s : Status) :
    openthreadWaitForReady s = some 0 ↔ openthreadIsReady s = true := by
  simp [openthreadWaitForReady, openthreadIsReady]

/-- The bit is right exactly when the last callback announces an address, or none did before it, or
another condition is missing. -/
theorem reflectsNetwork_iff (configLog : Bool) (earlier : List StateChange) (last : StateChange) :
    ReflectsNetwork configLog earlier last ↔
      RaisesAddress last ∨ (∀ change ∈ earlier, ¬ RaisesAddress change) ∨
        ¬ Attached (earlier ++ [last]) ∨ last.neighbors = [] ∨ last.prefixes = [] := by
  unfold ReflectsNetwork
  rw [waitForReady_iff, ready_iff]
  constructor
  · intro held
    obtain ⟨same, _⟩ := held
    by_contra missed
    push Not at missed
    obtain ⟨silent, ⟨change, present, raises⟩, attached, neighbor, route⟩ := missed
    have ready : NetworkReady earlier last :=
      ⟨attached, neighbor, route, change, List.mem_append_left _ present, raises⟩
    exact silent (same.mpr ready).2.2.2
  · intro condition
    have forward : Attached (earlier ++ [last]) ∧ last.neighbors ≠ [] ∧ last.prefixes ≠ [] ∧
        RaisesAddress last → NetworkReady earlier last := by
      intro change
      obtain ⟨attached, neighbor, route, raises⟩ := change
      exact ⟨attached, neighbor, route, last, by simp, raises⟩
    have backward : NetworkReady earlier last → Attached (earlier ++ [last]) ∧ last.neighbors ≠ [] ∧
        last.prefixes ≠ [] ∧ RaisesAddress last := by
      intro change
      obtain ⟨attached, neighbor, route, change, present, raises⟩ := change
      refine ⟨attached, neighbor, route, ?_⟩
      rcases condition with now | never | detached | alone | unrouted
      · exact now
      · rcases List.mem_append.mp present with before | current
        · exact absurd raises (never change before)
        · rwa [List.mem_singleton.mp current] at raises
      · exact absurd attached detached
      · exact absurd alone neighbor
      · exact absurd unrouted route
    exact ⟨⟨forward, backward⟩, backward⟩

/-- A child with a neighbour, a route and an address; a later network data change clears the bit. -/
theorem reflectsNetwork_fails :
    ¬ ReflectsNetwork true
      [⟨0x00000005, .child, [[0x2e, 0xfe, 0x7e, 0x80, 0x6e, 0x8a, 0xd2, 0x25]], [[0xfd, 0x04, 0x22, 0x40]]⟩]
      ⟨0x00000200, .child, [[0x2e, 0xfe, 0x7e, 0x80, 0x6e, 0x8a, 0xd2, 0x25]], [[0xfd, 0x04, 0x22, 0x40]]⟩ := by
  intro held
  obtain ⟨same, _⟩ := held
  have ready := same.mpr ⟨Or.inr (Or.inl rfl), by decide, by decide, _, List.mem_cons_self, by decide⟩
  exact absurd ready (by decide)

end AirQuality.Network
