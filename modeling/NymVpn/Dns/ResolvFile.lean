import NymVpn.Net.Display
import NymVpn.Text.Str
import NymVpn.Tunnel.Settings

/-!
# Resolv files

The managed file lists the servers of the tunnel or, while it is down, the local resolvers
and the servers of the WAN. It is read line by line.
-/

namespace NymDns

open Net Text TunnelStateMachine.TunnelSettings

def preferIpv4Upstreams (servers : List IpAddr) : List IpAddr :=
  let v4 := servers.filter IpAddr.isIpv4
  if v4.isEmpty then servers else v4

def header : String := "# Generated by nym-vpnd"

def renderResolvConf (servers : List IpAddr) : String :=
  unlines (header :: servers.map fun server => "nameserver " ++ server.display)

def includesWan (idle : IdleDns) : Bool := !idle.killswitch || idle.localResolvers.isEmpty

def wanOnly : IdleDns := ⟨[], false⟩

def wanSnapshot (wan : Option String) : String := wan.getD (header ++ "\n")

def addNameservers (out wan : String) : String :=
  (strLines wan).foldl (fun out line =>
      if (stripStart "nameserver " line).isSome && !strContains out (line ++ "\n") then
        out ++ line ++ "\n"
      else out)
    out

def idleSnapshot (wan : Option String) (idle : IdleDns) : String :=
  if idle.localResolvers.isEmpty then wanSnapshot wan
  else
    let out := renderResolvConf idle.localResolvers
    if includesWan idle then addNameservers out (wanSnapshot wan) else out

/-! ## What a resolv file lists -/

def nameserver (line : String) : Option String :=
  match fields isWhiteSpace line with
  | "nameserver" :: address :: _ => some address
  | _ => none

def nameservers (content : String) : List String := (strLines content).filterMap nameserver

theorem digitValue_eq_none_of_isWhiteSpace {c : Char} (hc : isWhiteSpace c = true) :
    digitValue c = none := by
  have hdigit : ¬ ('0' ≤ c ∧ c ≤ '9') ∧ ¬ ('a' ≤ c ∧ c ≤ 'f') := by
    simp only [isWhiteSpace, Bool.or_eq_true, Bool.and_eq_true, decide_eq_true_eq,
      List.mem_cons, List.not_mem_nil, or_false] at hc
    simp only [Char.le_def, UInt32.le_iff_toNat_le]
    change ¬ (48 ≤ c.toNat ∧ c.toNat ≤ 57) ∧ ¬ (97 ≤ c.toNat ∧ c.toNat ≤ 102)
    omega
  simp [digitValue, hdigit]

theorem not_mem_display_of_isWhiteSpace {c : Char} (hc : isWhiteSpace c = true) (ip : IpAddr) :
    c ∉ ip.display.toList := by
  apply ip.not_mem_display (digitValue_eq_none_of_isWhiteSpace hc)
  · rintro rfl
    exact absurd hc (by decide)
  · rintro rfl
    exact absurd hc (by decide)

theorem isWord_display (ip : IpAddr) : IsWord ip.display := (IpPattern.isWord_display (.host ip)).1

theorem nameserver_line (ip : IpAddr) : nameserver ("nameserver " ++ ip.display) =
    some ip.display := by
  have hfields : fields isWhiteSpace ("nameserver " ++ ip.display) =
      ["nameserver", ip.display] := by
    rw [fields_eq_words, words_append_of_blank (by decide), words_of_isWord (isWord_display ip)]
    · rfl
    · intro c hc hblank
      rw [String.toList_append, List.mem_append] at hc
      rcases hc with hc | hc
      · have hall : ("nameserver ".toList.all fun c => !isWhiteSpace c || c == ' ') = true := by
          decide
        simpa [hblank] using List.all_eq_true.1 hall c hc
      · exact absurd hc (not_mem_display_of_isWhiteSpace hblank ip)
  simp [nameserver, hfields]

theorem nameservers_renderResolvConf (servers : List IpAddr) :
    nameservers (renderResolvConf servers) = servers.map IpAddr.display := by
  have hlines : ∀ l ∈ header :: servers.map fun server => "nameserver " ++ server.display,
      IsLine l ∧ '\r' ∉ l.toList := by
    rw [List.forall_mem_cons, List.forall_mem_map]
    refine ⟨by decide, fun server _ => ?_⟩
    have hdisplay {c : Char} (hc : isWhiteSpace c = true) : c ∉ server.display.toList :=
      not_mem_display_of_isWhiteSpace hc server
    simp only [IsLine, String.toList_append, List.mem_append, not_or]
    exact ⟨⟨by decide, hdisplay (by decide)⟩, by decide, hdisplay (by decide)⟩
  have hheader : nameserver header = none := by decide +kernel
  rw [nameservers, renderResolvConf, strLines_unlines hlines, List.filterMap_cons_none hheader,
    List.filterMap_map, ← List.filterMap_eq_map]
  apply List.filterMap_congr
  intro server _
  rw [Function.comp_apply, Function.comp_apply, nameserver_line]

theorem nameservers_idleSnapshot {idle : IdleDns} (hlocal : idle.localResolvers ≠ [])
    (hkillswitch : idle.killswitch = true) (wan : Option String) :
    nameservers (idleSnapshot wan idle) = idle.localResolvers.map IpAddr.display := by
  have hsnapshot : idleSnapshot wan idle = renderResolvConf idle.localResolvers := by
    simp [idleSnapshot, includesWan, hlocal, hkillswitch]
  rw [hsnapshot, nameservers_renderResolvConf]

theorem exists_addNameservers_eq (out wan : String) :
    ∃ more, addNameservers out wan = out ++ more := by
  unfold addNameservers
  induction strLines wan generalizing out with
  | nil => exact ⟨"", by simp⟩
  | cons line ls ih =>
    rw [List.foldl_cons]
    split
    · obtain ⟨more, hmore⟩ := ih (out ++ line ++ "\n")
      exact ⟨line ++ "\n" ++ more, hmore.trans (by simp [String.append_assoc])⟩
    · exact ih out

theorem idleSnapshot_eq_empty_iff {wan : Option String} {idle : IdleDns} :
    idleSnapshot wan idle = "" ↔ idle.localResolvers = [] ∧ wan = some "" := by
  by_cases hlocal : idle.localResolvers = []
  · cases wan with
    | none => simp [idleSnapshot, wanSnapshot, hlocal, header]
    | some text => simp [idleSnapshot, wanSnapshot, hlocal]
  · have hrender : renderResolvConf idle.localResolvers ≠ "" := by
      simp [renderResolvConf, unlines, header]
    obtain ⟨more, hmore⟩ := exists_addNameservers_eq (renderResolvConf idle.localResolvers)
      (wanSnapshot wan)
    simp only [idleSnapshot, List.isEmpty_iff, hlocal, if_false, false_and, iff_false]
    split
    · simp [hmore, hrender]
    · exact hrender

end NymDns
