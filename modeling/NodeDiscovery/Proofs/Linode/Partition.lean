import NodeDiscovery.Proofs.Address.V4
import NodeDiscovery.Provider.Linode
import Mathlib.Data.List.Basic

/-! The addresses of version 4 of an instance fall into those of private networks and all others. -/
namespace NodeDiscovery

/-- The text is that of an address in one of the private networks. -/
def Address.NamesPrivate (ip : String) : Prop :=
  ∃ x : V4, x.text = ip ∧ ∃ block ∈ Block.privateNetworks, block.Holds x

namespace Linode
open Address (NamesPrivate)

theorem isPrivate_iff {ip : String} : isPrivate ip = true ↔ NamesPrivate ip := by
  rw [isPrivate, Option.any_eq_true]
  constructor
  · rintro ⟨x, hx, hprivate⟩
    exact ⟨x, (Address.V4.ofText?_eq_some_iff.mp hx).symm, Address.V4.isPrivate_iff.mp hprivate⟩
  · rintro ⟨x, rfl, hblock⟩
    exact ⟨x, Address.V4.ofText?_eq_some_iff.mpr rfl, Address.V4.isPrivate_iff.mpr hblock⟩

/-- The private and the public addresses of an instance are the two parts of what is listed for it,
each in the order of the list. An entry is in the private part if it is written as an address of a
private network is, and in the public part otherwise, even if it is no address at all. -/
theorem addresses_partition_ipv4 (i : Instance) :
    (i.addresses .privateV4).Sublist i.ipv4 ∧ (i.addresses .publicV4).Sublist i.ipv4 ∧
      (i.addresses .privateV4 ++ i.addresses .publicV4).Perm i.ipv4 ∧
      ∀ ip, (ip ∈ i.addresses .privateV4 ↔ ip ∈ i.ipv4 ∧ NamesPrivate ip) ∧
        (ip ∈ i.addresses .publicV4 ↔ ip ∈ i.ipv4 ∧ ¬ NamesPrivate ip) := by
  refine ⟨List.filter_sublist, List.filter_sublist, List.filter_append_perm isPrivate i.ipv4,
    fun ip => ⟨?_, ?_⟩⟩
  · rw [Instance.addresses, List.mem_filter, isPrivate_iff]
  · rw [Instance.addresses, List.mem_filter, Bool.not_eq_true', ← Bool.not_eq_true, isPrivate_iff]

/-- A block has two ends, and a number with a leading zero is none. -/
example : (Instance.addresses .privateV4 ⟨7, "", ["172.15.0.1", "172.16.0.0", "198.51.100.10",
    "172.31.255.255", "172.32.0.0", "10.0.0.01", "10.0.0.1"], none⟩) =
      ["172.16.0.0", "172.31.255.255", "10.0.0.1"] := by
  decide +kernel

end Linode
end NodeDiscovery
