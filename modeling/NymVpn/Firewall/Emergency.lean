import NymVpn.Net.Addr
import NymVpn.Netfilter.Command

/-!
# The emergency block

The rule set in force while no policy is in place: two chains of its own, each ended by
an unconditional drop and hooked ahead of everything else.
-/

namespace NymFirewall

open Net Netfilter Text

def fw3HookInput : String := "input_rule"
def fw3HookOutput : String := "output_rule"
def fw3HookForward : String := "forwarding_rule"

def emergencyOutputChain : String := "NYM_EMERGENCY_OUT"
def emergencyForwardChain : String := "NYM_EMERGENCY_FWD"

namespace BootRules

open Iptables

def multicastV4 : String := "224.0.0.0/4"
def multicastV6 : String := "ff00::/8"

def bootLanNetsV4 : List String :=
  ["10.0.0.0/8", "172.16.0.0/12", "192.168.0.0/16", "169.254.0.0/16"]

def bootLanNetsV6 : List String := ["fe80::/10", "fc00::/7"]

def rejectUdp : AddrFamily → String
  | .v4 => "icmp-port-unreachable"
  | .v6 => "icmp6-port-unreachable"

inductive Mode where
  | transition
  | boot
deriving DecidableEq

def allowanceTexts (family : AddrFamily) (mode : Mode) : List (String × String) :=
  let out := emergencyOutputChain
  let fwd := emergencyForwardChain
  -- Reply-direction packets leave so inbound management sessions survive.
  [(out, "-m conntrack --ctstate RELATED,ESTABLISHED --ctdir REPLY -j ACCEPT")] ++
  (if mode = .boot then
    [(out, "-o lo -j ACCEPT")] ++
    match family with
    | .v4 =>
      [(out, "-p udp --sport 68 --dport 67 -j ACCEPT"),
        (out, "-p udp --sport 67 --dport 68 -j ACCEPT")]
    | .v6 =>
      [(out, "-p udp --sport 546 --dport 547 -j ACCEPT"),
        (out, "-p udp --sport 547 --dport 546 -j ACCEPT"),
        (out, "-p icmpv6 --icmpv6-type router-solicitation -j ACCEPT")]
  else []) ++
  (if family = .v6 then
    [(out, "-p icmpv6 --icmpv6-type neighbour-solicitation -j ACCEPT"),
      (out, "-p icmpv6 --icmpv6-type neighbour-advertisement -j ACCEPT")]
  else []) ++
  (if mode = .boot then
    -- DNS first, then the LAN and multicast accepts.
    [out, fwd].flatMap (fun chain =>
      [(chain, "-p udp --dport 53 -j REJECT --reject-with " ++ rejectUdp family),
        (chain, "-p tcp --dport 53 -j REJECT --reject-with tcp-reset")]) ++
    let (mcast, nets) := match family with
      | .v4 => (multicastV4, bootLanNetsV4)
      | .v6 => (multicastV6, bootLanNetsV6)
    [(out, "-d " ++ mcast ++ " -j ACCEPT")] ++
    nets.flatMap fun net =>
      -- A return, so that forwards to private destinations stay the zones' decision.
      [(out, "-d " ++ net ++ " -j ACCEPT"), (fwd, "-d " ++ net ++ " -j RETURN")]
  else [])

def iptablesEmergencyRules (family : AddrFamily) (mode : Mode) : String :=
  let out := emergencyOutputChain
  let fwd := emergencyForwardChain
  unlines (Iptables.blockText "filter" [out, fwd]
    (allowanceTexts family mode ++ [(out, "-j DROP"), (fwd, "-j DROP")])
    [(fw3HookOutput, "-j " ++ out), (fw3HookForward, "-j " ++ fwd)])

/-! ## The block that the script is -/

def jump (target : String) : Iptables.Spec := ["-j", target]

def dropAll : Iptables.Spec := ["-j", "DROP"]

def allowances (family : AddrFamily) (mode : Mode) : List (String × Iptables.Spec) :=
  (allowanceTexts family mode).map fun e => (e.1, words e.2)

def emergencyBlock (family : AddrFamily) (mode : Mode) : Iptables.Block where
  table := "filter"
  chains := [emergencyOutputChain, emergencyForwardChain]
  appends := allowances family mode ++
    [(emergencyOutputChain, dropAll), (emergencyForwardChain, dropAll)]
  inserts := [(fw3HookOutput, jump emergencyOutputChain),
    (fw3HookForward, jump emergencyForwardChain)]

variable (family : AddrFamily) (mode : Mode) (t : Iptables.Chains) {c : String}

theorem allowanceTexts_chain :
    ∀ e ∈ allowanceTexts family mode, e.1 = emergencyOutputChain ∨ e.1 = emergencyForwardChain := by
  cases family <;> cases mode <;> simp [allowanceTexts, bootLanNetsV4, bootLanNetsV6]

theorem allowanceTexts_isLine : ∀ e ∈ allowanceTexts family mode, IsLine e.2 := by
  cases family <;> cases mode <;>
    simp only [allowanceTexts, bootLanNetsV4, bootLanNetsV6, rejectUdp, multicastV4, multicastV6,
      List.flatMap_cons, List.flatMap_nil, List.cons_append, List.nil_append, List.append_nil,
      List.forall_mem_cons, List.not_mem_nil, reduceCtorEq, if_true, if_false] <;>
    and_intros
  all_goals
    repeat' with_reducible apply IsLine.append
  all_goals
    first
      | exact isLine_ofList (by decide)
      | simp

theorem isChainName_emergencyOutputChain : Iptables.IsChainName emergencyOutputChain := by
  decide

theorem isChainName_emergencyForwardChain : Iptables.IsChainName emergencyForwardChain := by
  decide

theorem entryReads_allowances :
    List.Forall₂ Iptables.EntryReads (allowanceTexts family mode) (allowances family mode) := by
  rw [allowances, List.forall₂_map_right_iff, List.forall₂_same]
  intro e he
  refine ⟨rfl, ?_, allowanceTexts_isLine family mode e he, rfl⟩
  rcases allowanceTexts_chain family mode e he with h | h <;> simp only [h]
  · exact isChainName_emergencyOutputChain
  · exact isChainName_emergencyForwardChain

theorem readLines_emergencyRules :
    readLines readLine (iptablesEmergencyRules family mode) =
      some ([emergencyBlock family mode].flatMap Iptables.Block.lines) := by
  have hout := isChainName_emergencyOutputChain
  have hfwd := isChainName_emergencyForwardChain
  have hdrop : words "-j DROP" = dropAll := by decide
  have hdrops : List.Forall₂ Iptables.EntryReads
      [(emergencyOutputChain, "-j DROP"), (emergencyForwardChain, "-j DROP")]
      [(emergencyOutputChain, dropAll), (emergencyForwardChain, dropAll)] :=
    .cons ⟨rfl, hout, by decide, hdrop⟩ (.cons ⟨rfl, hfwd, by decide, hdrop⟩ .nil)
  have hjumps : List.Forall₂ Iptables.EntryReads
      [(fw3HookOutput, "-j " ++ emergencyOutputChain),
        (fw3HookForward, "-j " ++ emergencyForwardChain)]
      (emergencyBlock family mode).inserts :=
    .cons ⟨rfl, by decide, by decide, by decide⟩ (.cons ⟨rfl, by decide, by decide, by decide⟩ .nil)
  have hreads := reads_blockText (b := emergencyBlock family mode)
    (show Iptables.IsChainName "filter" by decide) (by simp [emergencyBlock, hout, hfwd])
    (List.rel_append (entryReads_allowances family mode) hdrops) hjumps
  have hlines : [emergencyBlock family mode].flatMap Iptables.Block.lines =
      (emergencyBlock family mode).lines := by simp
  rw [hlines]
  exact readLines_unlines (isLine_of_forall₂ hreads) (readStatements_of_forall₂ hreads)

/-! ## What the block leaves -/

theorem specsFor_allowances (hout : c ≠ emergencyOutputChain) (hfwd : c ≠ emergencyForwardChain)
    (family : AddrFamily) (mode : Mode) : specsFor (allowances family mode) c = [] := by
  rw [specsFor, List.map_eq_nil_iff, List.filter_eq_nil_iff]
  intro e he heq
  obtain ⟨t, ht, rfl⟩ := List.mem_map.1 he
  obtain rfl : t.1 = c := eq_of_beq heq
  rcases allowanceTexts_chain family mode t ht with h | h
  · exact hout h
  · exact hfwd h

theorem emergencyBlock_result_chain :
    (emergencyBlock family mode).result t emergencyOutputChain =
        some (specsFor (allowances family mode) emergencyOutputChain ++ [dropAll]) ∧
      (emergencyBlock family mode).result t emergencyForwardChain =
        some (specsFor (allowances family mode) emergencyForwardChain ++ [dropAll]) := by
  constructor <;>
    simp [Iptables.Block.result, declared, emergencyBlock, specsFor,
      emergencyOutputChain, emergencyForwardChain, fw3HookOutput, fw3HookForward]

theorem emergencyBlock_result_hook :
    (emergencyBlock family mode).result t fw3HookOutput =
        (t fw3HookOutput).map (jump emergencyOutputChain :: ·) ∧
      (emergencyBlock family mode).result t fw3HookForward =
        (t fw3HookForward).map (jump emergencyForwardChain :: ·) := by
  have hout := specsFor_allowances (c := fw3HookOutput) (by decide) (by decide) family mode
  have hfwd := specsFor_allowances (c := fw3HookForward) (by decide) (by decide) family mode
  simp only [Iptables.Block.result, declared, emergencyBlock, specsFor_append, hout, hfwd]
  constructor <;>
    simp [specsFor, emergencyOutputChain, emergencyForwardChain, fw3HookOutput, fw3HookForward]

theorem emergencyBlock_result_of_ne
    (h : c ∉ [emergencyOutputChain, emergencyForwardChain, fw3HookOutput, fw3HookForward]) :
    (emergencyBlock family mode).result t c = t c := by
  simp only [List.mem_cons, List.not_mem_nil, or_false, not_or] at h
  obtain ⟨hout, hfwd, hhook, hhook'⟩ := h
  have hspecs := specsFor_allowances hout hfwd family mode
  simp only [Iptables.Block.result, declared, emergencyBlock, specsFor_append, hspecs]
  simp [specsFor, hout, hfwd, Ne.symm hout, Ne.symm hfwd, Ne.symm hhook, Ne.symm hhook']

end BootRules

end NymFirewall
