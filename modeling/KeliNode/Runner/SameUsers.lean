import KeliNode.Core.RoutesKept
import KeliNode.Runner.Latest

/-!
# The two encoders of users

A change of users reaches the core in a delta (`keli_core_user_full_snapshot_payload`, `runner.rs:1312`), which
encodes the panel's users as they are, or in a rendered configuration (`inbound_user_plan`, `core.rs:3470`), which
trims their uuids and leaves the blank ones out.  Both give the core the same users exactly where no uuid is padded or
blank (`encoders_agree_iff`).

| here | there |
|---|---|
| `keliCoreUserDeltaUserValue` | `keli_core_user_delta_user`, `runner.rs:1357` |
| `keliCoreUserFullSnapshotValue` | `keli_core_user_full_snapshot_payload`, `runner.rs:1312` |
-/

namespace KeliNode

open Lib Lib.Json

/-! ## The payload as JSON -/

/-- `keli_core_user_delta_user` (`runner.rs:1357`), as JSON. -/
def keliCoreUserDeltaUserValue (deviceLimitFallback : Nat) (user : UserInfo) : Value :=
  ofFields [("id", .posInt user.id), ("uuid", .string user.uuid), ("password", .null), ("email", .null),
    ("speed_limit", .posInt user.speedLimit),
    ("device_limit", .posInt (effectiveDeviceLimit user.deviceLimit deviceLimitFallback))]

/-- `i64::to_string`. -/
def signedText (n : Int) : Text := if n < 0 then '-' :: decimal n.natAbs else decimal n.natAbs

/-- `keli_core_user_full_snapshot_payload` (`runner.rs:1312`), as JSON. -/
def keliCoreUserFullSnapshotValue (entry : RuntimeUserSyncEntry) (deviceLimitFallback : Nat) : Value :=
  ofFields [("full", .array (entry.state.users.map (keliCoreUserDeltaUserValue deviceLimitFallback))),
    ("revision", .string (signedText entry.state.revision))]

/-- The `users` of the inbound at a place in a rendered configuration. -/
def renderedUsers (config : Value) (place : Nat) : Option Value :=
  (((config.get "inbounds").bind asArray).bind fun inbounds => inbounds[place]?).bind (get "users")

/-- No uuid is padded with white space or blank. -/
def CleanUuids (users : List UserInfo) : Prop := ∀ user ∈ users, trim user.uuid = user.uuid ∧ user.uuid ≠ []

/-! ## Users -/

/-- Users that are encoded alike are alike in all the core reads. -/
theorem keliCoreRsUserValue_inj {a b : InboundUserPlan} (h : keliCoreRsUserValue a = keliCoreRsUserValue b) :
    renderKeliCoreRsUser a = renderKeliCoreRsUser b := by
  have hkeys : (["id", "uuid", "password", "email", "speed_limit", "device_limit"].map String.toList).Nodup := by decide
  have hget : ∀ (user : InboundUserPlan), (keliCoreRsUserValue user).get "id" = some (.posInt user.id) ∧
      (keliCoreRsUserValue user).get "uuid" = some (.string user.uuid) ∧
      (keliCoreRsUserValue user).get "speed_limit" = some (.posInt user.speedLimit) ∧
      (keliCoreRsUserValue user).get "device_limit" = some (.posInt user.deviceLimit) :=
    fun user => ⟨get_ofFields_at _ hkeys rfl 0 rfl, get_ofFields_at _ hkeys rfl 1 rfl, get_ofFields_at _ hkeys rfl 4 rfl,
      get_ofFields_at _ hkeys rfl 5 rfl⟩
  obtain ⟨hid, huuid, hspeed, hdevice⟩ := hget a
  obtain ⟨hid', huuid', hspeed', hdevice'⟩ := hget b
  rw [h] at hid huuid hspeed hdevice
  rw [hid, Option.some.injEq, Json.posInt.injEq] at hid'
  rw [huuid, Option.some.injEq, Json.string.injEq] at huuid'
  rw [hspeed, Option.some.injEq, Json.posInt.injEq] at hspeed'
  rw [hdevice, Option.some.injEq, Json.posInt.injEq] at hdevice'
  rw [renderKeliCoreRsUser, renderKeliCoreRsUser, hid', huuid', hspeed', hdevice']

/-- The encoder of the delta, as the encoder of the configuration without the trimming. -/
theorem deltaUserValue_eq (fallback : Nat) (user : UserInfo) : keliCoreUserDeltaUserValue fallback user =
    keliCoreRsUserValue
      { id := user.id, uuid := user.uuid, speedLimit := user.speedLimit
        deviceLimit := effectiveDeviceLimit user.deviceLimit fallback } := rfl

/-- A user is encoded alike exactly if its uuid is not padded. -/
theorem userValue_eq_iff (tag : Text) (fallback : Nat) (user : UserInfo) :
    keliCoreUserDeltaUserValue fallback user = keliCoreRsUserValue (inboundUserPlan tag user fallback) ↔
      trim user.uuid = user.uuid := by
  rw [deltaUserValue_eq]
  constructor
  · intro h
    have huuid := congrArg CoreUser.uuid (keliCoreRsUserValue_inj h)
    exact huuid.symm
  · intro h
    simp only [keliCoreRsUserValue, inboundUserPlan, h]

/-- All users against those that are kept. -/
theorem map_eq_map_filter_iff {α β : Type} {f g : α → β} {p : α → Bool} {xs : List α} :
    xs.map f = (xs.filter p).map g ↔ ∀ x ∈ xs, p x = true ∧ f x = g x := by
  constructor
  · intro h
    have hlength : xs.length = (xs.filter p).length := by simpa using congrArg List.length h
    have hall := List.length_filter_eq_length_iff.1 hlength.symm
    rw [List.filter_eq_self.2 hall] at h
    exact fun x hx => ⟨hall x hx, List.map_inj_left.1 h x hx⟩
  · intro h
    rw [List.filter_eq_self.2 fun x hx => (h x hx).1]
    exact List.map_congr_left fun x hx => (h x hx).2

theorem plannedUsers_value (node : NodeInfo) (users : List UserInfo) :
    (plannedUsers node users).map keliCoreRsUserValue = (users.filter fun user => !(trim user.uuid).isEmpty).map
      fun user => keliCoreRsUserValue (inboundUserPlan node.tag user (nodeDeviceLimitFallback node)) := by
  rw [plannedUsers, inboundUsers, List.map_map, List.map_map]
  rfl

/-- **One list of users**: encoded alike on both paths exactly if its uuids are clean. -/
theorem encoders_agree_iff (node : NodeInfo) (users : List UserInfo) :
    users.map (keliCoreUserDeltaUserValue (nodeDeviceLimitFallback node)) =
      (plannedUsers node users).map keliCoreRsUserValue ↔ CleanUuids users := by
  rw [plannedUsers_value, map_eq_map_filter_iff]
  refine forall₂_congr fun user _ => ?_
  rw [userValue_eq_iff]
  constructor
  · rintro ⟨hdark, htrim⟩
    rw [htrim] at hdark
    exact ⟨htrim, by simpa using hdark⟩
  · rintro ⟨htrim, hne⟩
    rw [htrim]
    exact ⟨by simpa using hne, rfl⟩

theorem effectiveDeviceLimit_again (limit fallback : Nat) :
    effectiveDeviceLimit (effectiveDeviceLimit limit fallback) fallback = effectiveDeviceLimit limit fallback := by
  unfold effectiveDeviceLimit
  split_ifs <;> rfl

/-- Users read back from a plan and planned again are the same users: trimming and the limit of the node change
nothing the second time. -/
theorem plannedUsers_again (node : NodeInfo) (users : List UserInfo) {inbound : InboundPlan}
    (husers : inbound.users = plannedUsers node users) :
    plannedUsers node (inboundUserInfos inbound) = inbound.users := by
  rw [plannedUsers, inboundUsers, inboundUserInfos, husers, plannedUsers, inboundUsers]
  simp only [List.map_map, List.filter_map]
  have hkept : ∀ user ∈ users.filter fun user => !(trim user.uuid).isEmpty,
      (!(trim (trim user.uuid)).isEmpty) = true := by
    intro user huser
    rw [trim_trim]
    exact (List.mem_filter.1 huser).2
  refine (congrArg (List.map _) (List.filter_eq_self.2 hkept)).trans (List.map_congr_left fun user _ => ?_)
  simp only [Function.comp_apply, inboundUserPlan, trim_trim, effectiveDeviceLimit_again]

/-! ## Deliveries -/

section

variable {configPath : Text} {nodes : List NodeInfo} {usersByNodeTag : UsersByNodeTag} {plan : CorePlan}
  {fromStr : Text → Option Value} {allowList : Option Text} {dns : CorePlanDnsOptions} {config : Value}

/-- The users of a node's inbound in the rendered configuration. -/
theorem renderedUsers_eq (hplan : CorePlan.fromNodesWithUsers configPath nodes usersByNodeTag = .ok plan)
    (hrender : renderKeliCoreRsConfig fromStr allowList { plan with dns } true = .ok config) {place : Nat}
    {node : NodeInfo} (hnode : nodes[place]? = some node) :
    renderedUsers config place =
      some (.array ((plannedUsers node (usersByNodeTag.getD node.tag [])).map keliCoreRsUserValue)) := by
  obtain ⟨-, -, inbounds, -, -, hinbounds, -, -, hget⟩ := config_members hrender
  obtain ⟨inbound, hinbound, hof⟩ := getElem?_of_forall₂ (fromNodesWithUsers_spec hplan).2 hnode
  obtain ⟨rendered, hrendered, hrenders⟩ := getElem?_of_forall₂ (forall₂_of_mapM_ok hinbounds) hinbound
  obtain ⟨routes, -, hrenders⟩ := bind_eq_ok.1 hrenders
  cases hrenders
  rw [renderedUsers, hget, Option.bind_some, asArray, Option.bind_some, hrendered, Option.bind_some, ← hof.users]
  exact get_ofFields_at ["tag", "protocol", "listen", "port", "cipher", "flow", "padding_scheme", "users", "transport",
    "tls", "sniffing", "routes"] (by decide) rfl 7 rfl

theorem get_full (entry : RuntimeUserSyncEntry) (fallback : Nat) :
    (keliCoreUserFullSnapshotValue entry fallback).get "full" =
      some (.array (entry.state.users.map (keliCoreUserDeltaUserValue fallback))) :=
  get_ofFields_at ["full", "revision"] (by decide) rfl 0 rfl

/-- **Deliveries**: the snapshot and the rendered configuration have the same users exactly if no uuid is padded or
blank.  Then the core has the same users after either, and a plan's own users stay what they are in the next plan. -/
theorem deliveries_agree_iff (hplan : CorePlan.fromNodesWithUsers configPath nodes usersByNodeTag = .ok plan)
    (hrender : renderKeliCoreRsConfig fromStr allowList { plan with dns } true = .ok config) {place : Nat}
    {node : NodeInfo} (hnode : nodes[place]? = some node) (entry : RuntimeUserSyncEntry)
    (husers : entry.state.users = usersByNodeTag.getD node.tag []) :
    ((keliCoreUserFullSnapshotValue entry (nodeDeviceLimitFallback node)).get "full" = renderedUsers config place ↔
        CleanUuids entry.state.users) ∧
      ∀ inbound, plan.inbounds[place]? = some inbound →
        (CleanUuids entry.state.users → ∀ core after : CoreInbound,
          core.applyDelta (keliCoreUserFullSnapshotPayload entry (nodeDeviceLimitFallback node)) = .ok after →
          after.users = coreUsersOf (inbound.users.map renderKeliCoreRsUser)) ∧
        plannedUsers node (inboundUserInfos inbound) = inbound.users := by
  refine ⟨?_, fun inbound hinbound => ?_⟩
  · rw [get_full, renderedUsers_eq hplan hrender hnode, ← husers, Option.some.injEq, Json.array.injEq]
    exact encoders_agree_iff node entry.state.users
  · obtain ⟨inbound', hinbound', hof⟩ := getElem?_of_forall₂ (fromNodesWithUsers_spec hplan).2 hnode
    rw [hinbound] at hinbound'
    cases hinbound'
    refine ⟨fun hclean core after hafter => ?_, plannedUsers_again node _ hof.users⟩
    cases hafter
    rw [hof.users, ← husers, plannedUsers_render node hclean]

end

/-- A SOCKS node with a limit of two devices where a user has none. -/
def limitedNode : NodeInfo where
  id := 1
  protocol := .socks
  tag := "node"
  common := { serverPort := 1080, baseConfig := some { deviceLimitFallback := 2 } }

def usersOfNode (users : List UserInfo) : UsersByNodeTag := (∅ : UsersByNodeTag).insert "node".toList users

/-- The node's plan renders with these users. -/
theorem limitedNode_renders (users : List UserInfo) (h : (CorePlan.fromNodesWithUsers "config.json" [limitedNode]
      (usersOfNode users) >>= fun plan => renderKeliCoreRsConfig Json.parse none plan true).toOption.isSome = true) :
    ∃ plan config, CorePlan.fromNodesWithUsers "config.json" [limitedNode] (usersOfNode users) = .ok plan ∧
      renderKeliCoreRsConfig Json.parse none { plan with dns := plan.dns } true = .ok config := by
  obtain ⟨config, h⟩ := exists_ok h
  obtain ⟨plan, hplan, hrender⟩ := bind_eq_ok.1 h
  exact ⟨plan, config, hplan, hrender⟩

/-- A clean user without a limit gets the node's on both paths. -/
theorem deliveries_agree_iff_clean : ∃ plan config,
    CorePlan.fromNodesWithUsers "config.json" [limitedNode] (usersOfNode [⟨7, "alice", 0, 0⟩]) = .ok plan ∧
    renderKeliCoreRsConfig Json.parse none plan true = .ok config ∧
    (keliCoreUserFullSnapshotValue { state := { users := [⟨7, "alice", 0, 0⟩] } }
      (nodeDeviceLimitFallback limitedNode)).get "full" = renderedUsers config 0 := by
  obtain ⟨plan, config, hplan, hrender⟩ := limitedNode_renders [⟨7, "alice", 0, 0⟩] (by decide +kernel)
  refine ⟨plan, config, hplan, hrender, ?_⟩
  refine (deliveries_agree_iff hplan hrender (show [limitedNode][0]? = some limitedNode from rfl) { state := { users := [⟨7, "alice", 0, 0⟩] } }
    (by decide +kernel)).1.2 fun user huser => ?_
  rcases List.mem_singleton.1 huser with rfl
  decide

/-- A padded uuid: the snapshot has it as it is, the configuration without the blank. -/
theorem padded_uuid_differs : ∃ plan config,
    CorePlan.fromNodesWithUsers "config.json" [limitedNode] (usersOfNode [⟨7, "alice ", 0, 0⟩]) = .ok plan ∧
    renderKeliCoreRsConfig Json.parse none plan true = .ok config ∧
    (keliCoreUserFullSnapshotValue { state := { users := [⟨7, "alice ", 0, 0⟩] } }
      (nodeDeviceLimitFallback limitedNode)).get "full" ≠ renderedUsers config 0 := by
  obtain ⟨plan, config, hplan, hrender⟩ := limitedNode_renders [⟨7, "alice ", 0, 0⟩] (by decide +kernel)
  refine ⟨plan, config, hplan, hrender, ?_⟩
  have husers : (usersOfNode [⟨7, "alice ", 0, 0⟩]).getD limitedNode.tag [] = [⟨7, "alice ", 0, 0⟩] := by decide +kernel
  rw [get_full, renderedUsers_eq hplan hrender (show [limitedNode][0]? = some limitedNode from rfl), husers, Ne, Option.some.injEq, Json.array.injEq,
    encoders_agree_iff]
  exact fun hclean => absurd (hclean _ List.mem_cons_self).1 (by decide)

end KeliNode
