/-
What is known of settings that were checked.

A check is a row of refusals, and settings that pass it meet the opposite of each.  Everything that
relies on a check does so through the fields of `Checked` and `Startable`.
-/
import RanSlicing.Proofs.Except
import RanSlicing.Proofs.Mask
import RanSlicing.Settings.Agent

namespace RanSlicing

/-- The pool has a unit for each of the slices, and its limit is within it. -/
structure Pool.Serves (pool : Pool) (tenants : Nat) : Prop where
  limit_le : pool.limit ≤ pool.size
  pos : tenants ≠ 0
  fits : tenants ≤ pool.limit

namespace SlicingSettings

/-- The slicing settings are in order. -/
structure Checked (settings : SlicingSettings) : Prop where
  pos : settings.tenants ≠ 0
  most : settings.tenants ≤ mostTenants
  pool : settings.pool.validate = .ok ()
  fits : settings.tenants ≤ settings.pool.limit
  records : settings.records.validate = .ok ()

theorem checked_of_validate {settings : SlicingSettings} (h : settings.validate = .ok ()) :
    settings.Checked := by
  unfold validate at h
  obtain ⟨hcount, h⟩ := refuse_eq_ok_iff.1 h
  obtain ⟨u, hpool, h⟩ := bind_eq_ok_iff.1 h
  obtain ⟨hsmall, hrecords⟩ := refuse_eq_ok_iff.1 h
  obtain ⟨hpos, hmost⟩ := not_or.1 hcount
  exact ⟨hpos, Nat.le_of_not_lt hmost, hpool, Nat.le_of_not_lt hsmall, hrecords⟩

theorem Checked.serves {settings : SlicingSettings} (h : settings.Checked) :
    settings.pool.Serves settings.tenants :=
  ⟨Pool.limit_le_size h.pool, h.pos, h.fits⟩

end SlicingSettings

namespace AgentSettings

/-- What the check says about the start of a daemon: the pool serves the slices, and a cycle has an
allocation to begin with. -/
structure Startable (settings : AgentSettings) : Prop where
  serves : settings.slicing.pool.Serves settings.slicing.tenants
  cycle : settings.agent.mode = .rotation → 0 < settings.rotation.allocations.length

theorem startable_of_validate {settings : AgentSettings} (h : settings.validate = .ok ()) :
    settings.Startable := by
  unfold validate at h
  obtain ⟨u, hslicing, h⟩ := bind_eq_ok_iff.1 h
  obtain ⟨u', -, h⟩ := bind_eq_ok_iff.1 h
  obtain ⟨-, h⟩ := refuse_eq_ok_iff.1 h
  obtain ⟨-, h⟩ := refuse_eq_ok_iff.1 h
  obtain ⟨hcycle, -⟩ := refuse_eq_ok_iff.1 h
  have hchecked := SlicingSettings.checked_of_validate (mapError_eq_ok_iff.1 hslicing)
  exact ⟨hchecked.serves, fun hmode => List.length_pos_iff.2 fun hnil => hcycle ⟨hmode, hnil⟩⟩

end AgentSettings

end RanSlicing
