import TrueNorth.Rendering.Topology

/-
  What the machines of a range ask of one of its networks,
  and that the renderer answers nothing but these demands,
  in their order.

  Key definitions include:
    * `Demand`
    * `Demand.serve`
    * `serveAll`
    * `Node.demand?`
    * `demandsOn`
    * `nicTexts`

  Main theorems:
    * `renderVm_demand`
    * `renderNodes_demands`
-/

--------
-- Demands
--------

namespace TrueNorth

namespace Rendering

/-
  A NIC's demand: its machine's own address, or that of a
  further NIC, which the template may write.
-/
structure Demand where
  own : Bool
  written : String
  routes : Bool
  shown : Bool
deriving DecidableEq

def Demand.address
    (d : Demand)
    (info : NetInfo) : Option (String × NetInfo) :=
  if d.written ≠ "" then some (d.written, info)
  else nextIp info d.routes

def Demand.serve
    (d : Demand)
    (info : NetInfo) : Option (String × NetInfo) := do
  let (ip, info) ← d.address info
  some (ip,
    if d.own = true ∧ ip = info.gateway then
      { info with gatewayTaken := true }
    else info)

def serveAll :
    List Demand → NetInfo →
      Option (List (Demand × String) × NetInfo)
| [], info => some ([], info)
| d :: ds, info => do
    let (ip, info) ← d.serve info
    let (answers, info) ← serveAll ds info
    some ((d, ip) :: answers, info)

/- The addresses that NICs show. -/
def shownTexts (answers : List (Demand × String)) :
    List String :=
  ((answers.filter (·.1.shown)).map Prod.snd).filter (· ≠ "")

/- The addresses of a machine's NICs on a network. -/
def nicTexts
    (name : String)
    (vm : Vm) : List String :=
  ((vm.nics.filter (·.network = name)).map Nic.ip).filter (· ≠ "")

/- What one machine of a node asks of a network. -/
def Node.demand?
    (vlanMap : Dict String Int)
    (name : String)
    (node : Node) : Option Demand :=
  let m := machineOf 0 vlanMap node ""
  if name = node.vlanName then
    some
      { own := true
        written := if node.countOf = 1 then node.ip else ""
        routes := node.isRouter
        shown := !m.isMonitor name }
  else if name ∈ nicNames node.vlanName m.byName ∧
      m.isMonitor name = false then
    some
      { own := false
        written := m.writtenIp name
        routes := node.isRouter
        shown := true }
  else none

/- What all machines of some nodes ask of a network. -/
def demandsOn
    (vlanMap : Dict String Int)
    (name : String)
    (nodes : List Node) : List Demand :=
  (nodes.filter (fun node => !node.isDrawing)).flatMap
    (fun node => (List.replicate node.countOf.toNat
      (node.demand? vlanMap name).toList).flatten)

theorem serveAll_append
    {ds ds' : List Demand}
    {info info' info'' : NetInfo}
    {answers answers' : List (Demand × String)}
    (hFirst : serveAll ds info = some (answers, info'))
    (hNext : serveAll ds' info' = some (answers', info'')) :
    serveAll (ds ++ ds') info =
      some (answers ++ answers', info'') := by
  induction ds generalizing info answers with
  | nil =>
      cases hFirst
      exact hNext
  | cons d ds ih =>
      simp only [serveAll, Option.bind_eq_bind,
        Option.bind_eq_some_iff, Option.some.injEq,
        Prod.mk.injEq] at hFirst
      rcases hFirst with
        ⟨⟨ip, mid⟩, hServe, ⟨rest, last⟩, hRest, hAnswers, hInfo⟩
      cases hInfo
      rw [List.cons_append, serveAll, hServe]
      simp only [Option.bind_eq_bind, Option.bind_some]
      rw [ih hRest, ← hAnswers]
      rfl

theorem shownTexts_append
    (answers answers' : List (Demand × String)) :
    shownTexts (answers ++ answers') =
      shownTexts answers ++ shownTexts answers' := by
  unfold shownTexts
  rw [List.filter_append, List.map_append, List.filter_append]

--------
-- One NIC
--------

/- Only the network that is asked changes. -/
theorem nextIpOn_other
    {name other : String}
    {routes : Bool}
    {nets nets' : Nets}
    {ip : String}
    (hNext : nextIpOn name routes nets = some (ip, nets'))
    (hOther : other ≠ name) :
    nets'.get? other = nets.get? other := by
  unfold nextIpOn at hNext
  cases hInfo : nets.get? name with
  | none =>
      rw [hInfo] at hNext
      cases hNext
      rfl
  | some info =>
      simp only [hInfo, Option.bind_eq_bind,
        Option.bind_eq_some_iff, Option.some.injEq,
        Prod.mk.injEq] at hNext
      rcases hNext with ⟨⟨ip', info'⟩, _, _, hNets⟩
      rw [← hNets, Dict.get?_set_ne hOther]

theorem nextIpOn_same
    {name : String}
    {routes : Bool}
    {nets nets' : Nets}
    {ip : String}
    {info : NetInfo}
    (hInfo : nets.get? name = some info)
    (hNext : nextIpOn name routes nets = some (ip, nets')) :
    ∃ info' : NetInfo, nextIp info routes = some (ip, info') ∧
      nets'.get? name = some info' := by
  unfold nextIpOn at hNext
  simp only [hInfo, Option.bind_eq_bind,
    Option.bind_eq_some_iff, Option.some.injEq,
    Prod.mk.injEq] at hNext
  rcases hNext with ⟨⟨ip', info'⟩, hServe, hIp, hNets⟩
  cases hIp
  refine ⟨info', hServe, ?_⟩
  rw [← hNets, Dict.get?_set_self]

theorem writtenOrNext_other
    {written name other : String}
    {routes : Bool}
    {nets nets' : Nets}
    {ip : String}
    (hNext : writtenOrNext written name routes nets =
      some (ip, nets'))
    (hOther : other ≠ name) :
    nets'.get? other = nets.get? other := by
  unfold writtenOrNext at hNext
  split at hNext
  · cases hNext
    rfl
  · exact nextIpOn_other hNext hOther

theorem writtenOrNext_same
    {d : Demand}
    {name : String}
    {nets nets' : Nets}
    {ip : String}
    {info : NetInfo}
    (hInfo : nets.get? name = some info)
    (hNext : writtenOrNext d.written name d.routes nets =
      some (ip, nets')) :
    ∃ info' : NetInfo, d.address info = some (ip, info') ∧
      nets'.get? name = some info' := by
  unfold writtenOrNext at hNext
  unfold Demand.address
  split at hNext
  · rename_i hWritten
    cases hNext
    exact ⟨info, if_pos hWritten, hInfo⟩
  · rename_i hNone
    rcases nextIpOn_same hInfo hNext with ⟨info', hServe, hGet⟩
    exact ⟨info', (if_neg hNone).trans hServe, hGet⟩

namespace Machine

theorem nicIp_other
    {m : Machine}
    {name other : String}
    {nets nets' : Nets}
    {ip : String}
    (hNic : m.nicIp name nets = some (ip, nets'))
    (hOther : other ≠ name) :
    nets'.get? other = nets.get? other := by
  unfold nicIp at hNic
  split at hNic
  · cases hNic
    rfl
  · split at hNic
    · cases hNic
      rfl
    · exact writtenOrNext_other hNic hOther

/- A NIC has the address it is given, on its own network. -/
theorem renderNic_eq_some
    {m : Machine}
    {name : String}
    {nets nets' : Nets}
    {nic : Nic}
    (hNic : m.renderNic name nets = some (nic, nets')) :
    m.nicIp name nets = some (nic.ip, nets') ∧
      nic.network = name ∧ nic.monitor = m.isMonitor name := by
  unfold renderNic at hNic
  simp only [Option.bind_eq_bind, Option.bind_eq_some_iff,
    Option.some.injEq, Prod.mk.injEq] at hNic
  rcases hNic with ⟨⟨ip, mid⟩, hIp, vlan, _, hSame, hNets⟩
  rw [← hSame, ← hNets]
  exact ⟨hIp, rfl, rfl⟩

/- A network that no NIC is on stays as it is. -/
theorem renderNics_other
    {m : Machine}
    {names : List String}
    {nets nets' : Nets}
    {nics : List Nic}
    (hNics : m.renderNics names nets = some (nics, nets'))
    {other : String}
    (hOther : other ∉ names) :
    nets'.get? other = nets.get? other ∧
      nics.filter (·.network = other) = [] := by
  induction names generalizing nets nics with
  | nil =>
      cases hNics
      exact ⟨rfl, rfl⟩
  | cons name names ih =>
      simp only [renderNics, Option.bind_eq_bind,
        Option.bind_eq_some_iff, Option.some.injEq,
        Prod.mk.injEq] at hNics
      rcases hNics with
        ⟨⟨nic, mid⟩, hNic, ⟨rest, last⟩, hRest, hList, hNets⟩
      cases hNets
      rw [List.mem_cons, not_or] at hOther
      rcases ih hRest hOther.2 with ⟨hGet, hNone⟩
      rcases renderNic_eq_some hNic with ⟨hIp, hName, _⟩
      refine ⟨hGet.trans (nicIp_other hIp hOther.1), ?_⟩
      rw [← hList, List.filter_cons_of_neg
        (by simpa [hName] using Ne.symm hOther.1), hNone]

/- One NIC is on each of the machine's networks. -/
theorem renderNics_at
    {m : Machine}
    {names : List String}
    {nets nets' : Nets}
    {nics : List Nic}
    (hNodup : names.Nodup)
    (hNics : m.renderNics names nets = some (nics, nets'))
    {name : String}
    (hName : name ∈ names) :
    ∃ (nic : Nic) (before after : Nets),
      m.renderNic name before = some (nic, after) ∧
      before.get? name = nets.get? name ∧
      after.get? name = nets'.get? name ∧
      nics.filter (·.network = name) = [nic] := by
  induction names generalizing nets nics with
  | nil => cases hName
  | cons first names ih =>
      simp only [renderNics, Option.bind_eq_bind,
        Option.bind_eq_some_iff, Option.some.injEq,
        Prod.mk.injEq] at hNics
      rcases hNics with
        ⟨⟨nic, mid⟩, hNic, ⟨rest, last⟩, hRest, hList, hNets⟩
      cases hNets
      rw [List.nodup_cons] at hNodup
      rcases renderNic_eq_some hNic with ⟨hIp, hSame, _⟩
      rw [← hList]
      rcases List.mem_cons.mp hName with hFirst | hLater
      · rw [← hFirst] at hNodup hNic hSame
        rcases renderNics_other hRest hNodup.1 with ⟨hGet, hNone⟩
        refine ⟨nic, nets, mid, hNic, rfl, hGet.symm, ?_⟩
        rw [List.filter_cons_of_pos (by simpa using hSame), hNone]
      · have hNe : name ≠ first := by
          intro hEq
          exact hNodup.1 (hEq ▸ hLater)
        rcases ih hNodup.2 hRest hLater with
          ⟨nic', before, after, hNic', hBefore, hAfter, hOnly⟩
        refine ⟨nic', before, after, hNic',
          hBefore.trans (nicIp_other hIp hNe), hAfter, ?_⟩
        rw [List.filter_cons_of_neg
          (by simpa [hSame] using Ne.symm hNe), hOnly]

end Machine

end Rendering

end TrueNorth

--------
-- One Machine
--------

namespace TrueNorth

namespace Rendering

theorem nodup_interfacesByName
    {vlanMap : Dict String Int}
    {vlanName : String}
    {byName ifaces : List Interface}
    (hNodup : (byName.map Interface.vlan).Nodup) :
    ((interfacesByName vlanMap vlanName byName ifaces).map
      Interface.vlan).Nodup := by
  induction ifaces generalizing byName with
  | nil => exact hNodup
  | cons iface ifaces ih =>
      unfold interfacesByName
      split
      · rename_i hKeep
        refine ih ?_
        rw [List.map_append, List.map_singleton]
        refine List.nodup_append.mpr ⟨hNodup, by simp, ?_⟩
        intro name hOld name' hNew hSame
        rw [List.mem_singleton] at hNew
        rw [hSame, hNew] at hOld
        exact hKeep.2 hOld
      · exact ih hNodup

theorem nodup_nicNames
    (vlanMap : Dict String Int)
    (node : Node) :
    (nicNames node.vlanName (interfacesByName vlanMap
      node.vlanName [] node.interfaces)).Nodup := by
  have hNodup :
      ((interfacesByName vlanMap node.vlanName []
        node.interfaces).map Interface.vlan).Nodup :=
    nodup_interfacesByName List.nodup_nil
  unfold nicNames
  simp only
  split
  · exact hNodup
  · rename_i hNot
    exact List.nodup_cons.mpr ⟨hNot, hNodup⟩

theorem vlanName_mem_nicNames
    (vlanName : String)
    (byName : List Interface) :
    vlanName ∈ nicNames vlanName byName := by
  unfold nicNames
  simp only
  split
  · assumption
  · exact List.mem_cons_self

theorem takeGateway_other
    {name other ip : String}
    {nets : Nets}
    (hOther : other ≠ name) :
    (takeGateway name ip nets).get? other = nets.get? other := by
  unfold takeGateway
  split
  · rfl
  · split
    · exact Dict.get?_set_ne hOther _
    · rfl

theorem takeGateway_same
    {name ip : String}
    {nets : Nets}
    {info : NetInfo}
    (hInfo : nets.get? name = some info) :
    (takeGateway name ip nets).get? name =
      some (if ip = info.gateway then
        { info with gatewayTaken := true } else info) := by
  unfold takeGateway
  simp only [hInfo]
  split
  · exact Dict.get?_set_self _ _ _
  · exact hInfo

/- A machine's own address answers its own demand. -/
theorem ownIp_same
    {node : Node}
    {nets nets' : Nets}
    {ip : String}
    {info : NetInfo}
    (hInfo : nets.get? node.vlanName = some info)
    (hOwn : ownIp node nets = some (ip, nets'))
    {d : Demand}
    (hd : d.own = true)
    (hWritten : d.written =
      if node.countOf = 1 then node.ip else "")
    (hRoutes : d.routes = node.isRouter) :
    ∃ info' : NetInfo, d.serve info = some (ip, info') ∧
      nets'.get? node.vlanName = some info' := by
  unfold ownIp at hOwn
  simp only [Option.bind_eq_bind, Option.bind_eq_some_iff,
    Option.some.injEq, Prod.mk.injEq] at hOwn
  rcases hOwn with ⟨⟨ip', mid⟩, hNext, hIp, hNets⟩
  cases hIp
  rw [← hWritten, ← hRoutes] at hNext
  rcases writtenOrNext_same hInfo hNext with
    ⟨info', hAddress, hGet⟩
  refine ⟨_, ?_, hNets ▸ takeGateway_same hGet⟩
  unfold Demand.serve
  rw [hAddress]
  simp only [Option.bind_eq_bind, Option.bind_some, hd, true_and]

theorem ownIp_other
    {node : Node}
    {nets nets' : Nets}
    {ip other : String}
    (hOwn : ownIp node nets = some (ip, nets'))
    (hOther : other ≠ node.vlanName) :
    nets'.get? other = nets.get? other := by
  unfold ownIp at hOwn
  simp only [Option.bind_eq_bind, Option.bind_eq_some_iff,
    Option.some.injEq, Prod.mk.injEq] at hOwn
  rcases hOwn with ⟨⟨ip', mid⟩, hNext, _, hNets⟩
  rw [← hNets, takeGateway_other hOther]
  exact writtenOrNext_other hNext hOther

theorem renderVm_eq_some
    {rangeId : String}
    {vlanBase : Int}
    {vlanMap : Dict String Int}
    {node : Node}
    {r : Nat}
    {nets nets' : Nets}
    {vm : Vm}
    (hVm : renderVm rangeId vlanBase vlanMap node r nets =
      some (vm, nets')) :
    ∃ (ip : String) (mid : Nets),
      ownIp node nets = some (ip, mid) ∧
      (machineOf vlanBase vlanMap node ip).renderNics
        (nicNames node.vlanName (interfacesByName vlanMap
          node.vlanName [] node.interfaces)) mid =
            some (vm.nics, nets') := by
  unfold renderVm at hVm
  simp only [Option.bind_eq_bind, Option.bind_eq_some_iff,
    Option.some.injEq, Prod.mk.injEq] at hVm
  rcases hVm with
    ⟨⟨ip, mid⟩, hOwn, ⟨nics, last⟩, hNics, hSame, hNets⟩
  cases hNets
  rw [← hSame]
  exact ⟨ip, mid, hOwn, hNics⟩

/- On its own network a machine has the address it is given. -/
theorem renderVm_own
    {rangeId : String}
    {vlanBase : Int}
    {vlanMap : Dict String Int}
    {node : Node}
    {r : Nat}
    {nets nets' : Nets}
    {vm : Vm}
    (hVm : renderVm rangeId vlanBase vlanMap node r nets =
      some (vm, nets'))
    {info : NetInfo}
    (hInfo : nets.get? node.vlanName = some info)
    {d : Demand}
    (hDemand : node.demand? vlanMap node.vlanName = some d) :
    ∃ (ip : String) (info' : NetInfo),
      d.serve info = some (ip, info') ∧
      nets'.get? node.vlanName = some info' ∧
      nicTexts node.vlanName vm = shownTexts [(d, ip)] := by
  rcases renderVm_eq_some hVm with ⟨ip, mid, hOwn, hNics⟩
  rcases Machine.renderNics_at (nodup_nicNames vlanMap node)
    hNics (vlanName_mem_nicNames _ _) with
      ⟨nic, before, after, hNic, hBefore, hAfter, hOnly⟩
  rcases Machine.renderNic_eq_some hNic with ⟨hIp, _, _⟩
  unfold Node.demand? at hDemand
  simp only [if_true, Option.some.injEq] at hDemand
  rcases ownIp_same hInfo hOwn (d := d) (by rw [← hDemand])
    (by rw [← hDemand]) (by rw [← hDemand]) with
      ⟨info', hServe, hGet⟩
  have hShown : d.shown =
      !(machineOf vlanBase vlanMap node ip).isMonitor
        node.vlanName := by
    rw [← hDemand]
    rfl
  have hKept : after = before ∧
      nic.ip = if d.shown = true then ip else "" := by
    unfold Machine.nicIp at hIp
    by_cases hMonitor : (machineOf vlanBase vlanMap node
        ip).isMonitor node.vlanName = true
    · rw [if_pos hMonitor, Option.some.injEq,
        Prod.mk.injEq] at hIp
      refine ⟨hIp.2.symm, ?_⟩
      rw [hShown, hMonitor, ← hIp.1]
      rfl
    · have hOwnName : node.vlanName =
          (machineOf vlanBase vlanMap node ip).vlanName := rfl
      rw [if_neg hMonitor, if_pos hOwnName, Option.some.injEq,
        Prod.mk.injEq] at hIp
      refine ⟨hIp.2.symm, ?_⟩
      rw [hShown, Bool.eq_false_iff.mpr hMonitor, ← hIp.1]
      rfl
  refine ⟨ip, info', hServe, ?_, ?_⟩
  · rw [← hAfter, hKept.1, hBefore, hGet]
  · unfold nicTexts shownTexts
    rw [hOnly, List.map_singleton, hKept.2]
    by_cases hs : d.shown = true
    · have hList : [(d, ip)].filter (·.1.shown) = [(d, ip)] :=
        List.filter_cons_of_pos hs
      rw [if_pos hs, hList, List.map_singleton]
    · have hList : [(d, ip)].filter (·.1.shown) = [] :=
        List.filter_cons_of_neg hs
      rw [if_neg hs, hList]
      rfl

/- A further NIC has its written address, or the next one. -/
theorem renderVm_further
    {rangeId : String}
    {vlanBase : Int}
    {vlanMap : Dict String Int}
    {node : Node}
    {r : Nat}
    {nets nets' : Nets}
    {vm : Vm}
    (hVm : renderVm rangeId vlanBase vlanMap node r nets =
      some (vm, nets'))
    {name : String}
    (hName : name ≠ node.vlanName)
    {info : NetInfo}
    (hInfo : nets.get? name = some info)
    {d : Demand}
    (hDemand : node.demand? vlanMap name = some d) :
    ∃ (ip : String) (info' : NetInfo),
      d.serve info = some (ip, info') ∧
      nets'.get? name = some info' ∧
      nicTexts name vm = shownTexts [(d, ip)] := by
  rcases renderVm_eq_some hVm with ⟨own, mid, hOwn, hNics⟩
  unfold Node.demand? at hDemand
  simp only [if_neg hName] at hDemand
  split at hDemand
  · rename_i hAsks
    rcases Machine.renderNics_at (nodup_nicNames vlanMap node)
      hNics hAsks.1 with
        ⟨nic, before, after, hNic, hBefore, hAfter, hOnly⟩
    rcases Machine.renderNic_eq_some hNic with ⟨hIp, _, _⟩
    rw [Option.some.injEq] at hDemand
    have hMonitor : ¬(machineOf vlanBase vlanMap node
        own).isMonitor name = true := by
      rw [Bool.not_eq_true]
      exact hAsks.2
    have hBeforeInfo : before.get? name = some info := by
      rw [hBefore, ownIp_other hOwn hName, hInfo]
    have hFurther : ¬name =
        (machineOf vlanBase vlanMap node own).vlanName := hName
    unfold Machine.nicIp at hIp
    rw [if_neg hMonitor, if_neg hFurther] at hIp
    rcases writtenOrNext_same (d := d) hBeforeInfo
      (by rw [← hDemand]; exact hIp) with
        ⟨info', hAddress, hGet⟩
    refine ⟨nic.ip, info', ?_, ?_, ?_⟩
    · unfold Demand.serve
      rw [hAddress]
      simp only [Option.bind_eq_bind, Option.bind_some]
      rw [if_neg (by rw [← hDemand]; simp)]
    · rw [← hAfter, hGet]
    · unfold nicTexts shownTexts
      rw [hOnly, ← hDemand]
      rfl
  · cases hDemand

/- A network that is not asked stays, and shows nothing. -/
theorem renderVm_none
    {rangeId : String}
    {vlanBase : Int}
    {vlanMap : Dict String Int}
    {node : Node}
    {r : Nat}
    {nets nets' : Nets}
    {vm : Vm}
    (hVm : renderVm rangeId vlanBase vlanMap node r nets =
      some (vm, nets'))
    {name : String}
    (hDemand : node.demand? vlanMap name = none) :
    nets'.get? name = nets.get? name ∧
      nicTexts name vm = [] := by
  rcases renderVm_eq_some hVm with ⟨own, mid, hOwn, hNics⟩
  unfold Node.demand? at hDemand
  have hName : name ≠ node.vlanName := by
    intro hSame
    simp only [if_pos hSame] at hDemand
    cases hDemand
  simp only [if_neg hName] at hDemand
  split at hDemand
  · cases hDemand
  · rename_i hNot
    by_cases hMem : name ∈ nicNames node.vlanName
        (interfacesByName vlanMap node.vlanName []
          node.interfaces)
    · rcases Machine.renderNics_at (nodup_nicNames vlanMap node)
        hNics hMem with
          ⟨nic, before, after, hNic, hBefore, hAfter, hOnly⟩
      rcases Machine.renderNic_eq_some hNic with ⟨hIp, _, _⟩
      have hMonitor : (machineOf vlanBase vlanMap node
          own).isMonitor name = true := by
        rw [← Bool.not_eq_false]
        intro hFalse
        exact hNot ⟨hMem, hFalse⟩
      unfold Machine.nicIp at hIp
      rw [if_pos hMonitor] at hIp
      simp only [Option.some.injEq, Prod.mk.injEq] at hIp
      refine ⟨?_, ?_⟩
      · rw [← hAfter, ← hIp.2, hBefore, ownIp_other hOwn hName]
      · unfold nicTexts
        rw [hOnly, List.map_singleton, ← hIp.1]
        rfl
    · rcases Machine.renderNics_other hNics hMem with
        ⟨hGet, hNone⟩
      refine ⟨hGet.trans (ownIp_other hOwn hName), ?_⟩
      unfold nicTexts
      rw [hNone]
      rfl

/-
  A machine's NICs on a network show what answers the
  demand it makes of that network, if it makes one.
-/
theorem renderVm_demand
    {rangeId : String}
    {vlanBase : Int}
    {vlanMap : Dict String Int}
    {node : Node}
    {r : Nat}
    {nets nets' : Nets}
    {vm : Vm}
    (hVm : renderVm rangeId vlanBase vlanMap node r nets =
      some (vm, nets'))
    {name : String}
    {info : NetInfo}
    (hInfo : nets.get? name = some info) :
    ∃ (answers : List (Demand × String)) (info' : NetInfo),
      serveAll (node.demand? vlanMap name).toList info =
        some (answers, info') ∧
      nets'.get? name = some info' ∧
      nicTexts name vm = shownTexts answers := by
  cases hDemand : node.demand? vlanMap name with
  | none =>
      rcases renderVm_none hVm hDemand with ⟨hGet, hTexts⟩
      exact ⟨[], info, rfl, hGet.trans hInfo, hTexts⟩
  | some d =>
      have hServed : ∃ (ip : String) (info' : NetInfo),
          d.serve info = some (ip, info') ∧
          nets'.get? name = some info' ∧
          nicTexts name vm = shownTexts [(d, ip)] := by
        by_cases hName : name = node.vlanName
        · rw [hName] at hInfo hDemand ⊢
          exact renderVm_own hVm hInfo hDemand
        · exact renderVm_further hVm hName hInfo hDemand
      rcases hServed with ⟨ip, info', hServe, hGet, hTexts⟩
      refine ⟨[(d, ip)], info', ?_, hGet, hTexts⟩
      rw [Option.toList_some, serveAll, hServe]
      rfl

--------
-- All Machines
--------

theorem renderReplicas_demands
    {rangeId : String}
    {vlanBase : Int}
    {vlanMap : Dict String Int}
    {node : Node}
    {rs : List Nat}
    {nets nets' : Nets}
    {vms : List Vm}
    (hVms : renderReplicas rangeId vlanBase vlanMap node rs nets =
      some (vms, nets'))
    {name : String}
    {info : NetInfo}
    (hInfo : nets.get? name = some info) :
    ∃ (answers : List (Demand × String)) (info' : NetInfo),
      serveAll (List.replicate rs.length
        (node.demand? vlanMap name).toList).flatten info =
          some (answers, info') ∧
      nets'.get? name = some info' ∧
      vms.flatMap (nicTexts name) = shownTexts answers := by
  induction rs generalizing nets vms info with
  | nil =>
      cases hVms
      exact ⟨[], info, rfl, hInfo, rfl⟩
  | cons r rs ih =>
      simp only [renderReplicas, Option.bind_eq_bind,
        Option.bind_eq_some_iff, Option.some.injEq,
        Prod.mk.injEq] at hVms
      rcases hVms with
        ⟨⟨vm, mid⟩, hVm, ⟨rest, last⟩, hRest, hList, hNets⟩
      cases hNets
      rcases renderVm_demand hVm hInfo with
        ⟨first, info', hFirst, hMid, hTexts⟩
      rcases ih hRest hMid with
        ⟨answers, info'', hServe, hGet, hAll⟩
      refine ⟨first ++ answers, info'', ?_, hGet, ?_⟩
      · rw [List.length_cons, List.replicate_succ,
          List.flatten_cons]
        exact serveAll_append hFirst hServe
      · rw [← hList, List.flatMap_cons, hTexts, hAll,
          shownTexts_append]

/-
  The NICs on a network show the answers to the demands of
  all machines, and nothing else changes that network.
-/
theorem renderNodes_demands
    {rangeId : String}
    {vlanBase : Int}
    {vlanMap : Dict String Int}
    {nodes : List Node}
    {nets nets' : Nets}
    {vms : List Vm}
    (hVms : renderNodes rangeId vlanBase vlanMap nodes nets =
      some (vms, nets'))
    {name : String}
    {info : NetInfo}
    (hInfo : nets.get? name = some info) :
    ∃ (answers : List (Demand × String)) (info' : NetInfo),
      serveAll (demandsOn vlanMap name nodes) info =
        some (answers, info') ∧
      nets'.get? name = some info' ∧
      vms.flatMap (nicTexts name) = shownTexts answers := by
  induction nodes generalizing nets vms info with
  | nil =>
      cases hVms
      exact ⟨[], info, rfl, hInfo, rfl⟩
  | cons node nodes ih =>
      unfold renderNodes at hVms
      by_cases hDrawing : node.isDrawing = true
      · rw [if_pos hDrawing] at hVms
        rw [demandsOn, List.filter_cons_of_neg
          (by rw [hDrawing]; decide)]
        exact ih hVms hInfo
      · rw [if_neg hDrawing] at hVms
        simp only [Option.bind_eq_bind,
          Option.bind_eq_some_iff, Option.some.injEq,
          Prod.mk.injEq] at hVms
        rcases hVms with
          ⟨⟨first, mid⟩, hFirst, ⟨rest, last⟩, hRest, hList,
            hNets⟩
        cases hNets
        rcases renderReplicas_demands hFirst hInfo with
          ⟨answers, info', hServe, hMid, hTexts⟩
        rcases ih hRest hMid with
          ⟨answers', info'', hServe', hGet, hTexts'⟩
        rw [List.length_range] at hServe
        refine ⟨answers ++ answers', info'', ?_, hGet, ?_⟩
        · rw [demandsOn, List.filter_cons_of_pos
            (by rw [Bool.eq_false_iff.mpr hDrawing]; rfl),
            List.flatMap_cons]
          exact serveAll_append hServe hServe'
        · rw [← hList, List.flatMap_append, hTexts, hTexts',
            shownTexts_append]

end Rendering

end TrueNorth
