import Mathlib
import PayRun.Proofs.ClosedForm
import PayRun.Proofs.PrintedAmount
import PayRun.Proofs.Refused

/-!
# Amounts in another spelling

An amount can be spelled in many ways, each with a coefficient and an exponent of its own.  The pay rules work on
spellings, but what they give depends on the values alone: two employees who differ in the spelling of salary and tax
rate are refused for the same reason, and if no amount overflows their runs leave the same bytes, events and sink
behind (`Session.settle_respelled`).

Every step is a congruence for equal values.  At the end values become texts, and equal values have equal texts.
-/

namespace PayRun

/-! ### The pay rules -/

private theorem exists_averageDaily {net : Decimal} {days : Int64} (hdays : ¬ days ≤ 0)
    (hdefined : ∀ cause, averageDaily net days ≠ .error (.overflow cause)) :
    ∃ average, averageDaily net days = .ok average := by
  have hquotient : averageDaily net days = (net.divNat days.toInt.toNat).mapError .overflow := if_neg hdays
  rw [hquotient] at hdefined ⊢
  cases hq : net.divNat days.toInt.toNat with
  | error cause => exact absurd (by rw [hq]; rfl) (hdefined cause)
  | ok average => exact ⟨average, rfl⟩

private theorem toRat_averageDaily_congr {net net' average average' : Decimal} {days : Int64}
    (hnet : net.toRat = net'.toRat) (h : averageDaily net days = .ok average)
    (h' : averageDaily net' days = .ok average') :
    average.toRat = average'.toRat := by
  obtain ⟨hpos, hq⟩ := Run.averageDaily_eq_ok h
  obtain ⟨-, hq'⟩ := Run.averageDaily_eq_ok h'
  rw [Decimal.toRat_divNat hpos hq, Decimal.toRat_divNat hpos hq', hnet]

theorem Tier.of_congr {net net' : Decimal} (h : net.toRat = net'.toRat) : Tier.of net = Tier.of net' := by
  simp only [Tier.of, Decimal.lt_iff_toRat_lt, h]

/-- Two settlements with the same values. -/
structure Settlement.SameValues (st st' : Settlement) : Prop where
  finalSalary : st.finalSalary.toRat = st'.finalSalary.toRat
  tax : st.tax.toRat = st'.tax.toRat
  netSalary : st.netSalary.toRat = st'.netSalary.toRat

theorem Settlement.of_congr {salary salary' bonus bonus' rate rate' : Decimal} {st st' : Settlement}
    (hsalary : salary.toRat = salary'.toRat) (hbonus : bonus.toRat = bonus'.toRat) (hrate : rate.toRat = rate'.toRat)
    (h : Settlement.of salary bonus rate = .ok st) (h' : Settlement.of salary' bonus' rate' = .ok st') :
    st.SameValues st' := by
  have hfinal : (salary + bonus).toRat = (salary' + bonus').toRat := by
    rw [Decimal.toRat_add, Decimal.toRat_add, hsalary, hbonus]
  rw [Settlement.of_eq] at h h'
  cases ht : (salary + bonus).mul rate with
  | error cause => rw [ht] at h; cases h
  | ok tax =>
    cases ht' : (salary' + bonus').mul rate' with
    | error cause => rw [ht'] at h'; cases h'
    | ok tax' =>
      rw [ht] at h
      rw [ht'] at h'
      cases h
      cases h'
      have htax : tax.toRat = tax'.toRat := by rw [Decimal.toRat_mul ht, Decimal.toRat_mul ht', hfinal, hrate]
      refine ⟨hfinal, htax, ?_⟩
      show (salary + bonus - tax).toRat = (salary' + bonus' - tax').toRat
      rw [Decimal.toRat_sub, Decimal.toRat_sub, hfinal, htax]

/-! ### Employees -/

namespace Employee

/-- The same employee, with the salary and the tax rate in another spelling. -/
structure Respelled (e e' : Employee) : Prop where
  salary : e.salary.toRat = e'.salary.toRat
  taxRate : e.taxRate.toRat = e'.taxRate.toRat
  others : e' = { e with salary := e'.salary, taxRate := e'.taxRate }

namespace Respelled

variable {e e' : Employee} (h : e.Respelled e')

include h

private theorem name : e'.name = e.name := by rw [h.others]

private theorem age : e'.age = e.age := by rw [h.others]

private theorem daysWorked : e'.daysWorked = e.daysWorked := by rw [h.others]

private theorem bonusShare : e.bonusShare = e'.bonusShare := by
  have hprojects : e'.totalProjects = e.totalProjects := by rw [h.others]
  simp only [Employee.bonusShare, h.age, h.salary, h.daysWorked, hprojects]

private theorem productivity : e'.productivity = e.productivity := by
  rw [h.others]
  rfl

private theorem toRat_bonus {bonus bonus' : Decimal} (hb : e.bonus = .ok bonus) (hb' : e'.bonus = .ok bonus') :
    bonus.toRat = bonus'.toRat := by
  rw [Employee.toRat_bonus hb, Employee.toRat_bonus hb', h.salary, h.bonusShare]

/-- A refusal names the same fault, in the same words. -/
private theorem refusal :
    e.refusal?.map Refusal.kind = e'.refusal?.map Refusal.kind ∧
      e.refusal?.map Refusal.message = e'.refusal?.map Refusal.message := by
  have hsalary := Decimal.toText_eq_of_toRat_eq h.salary
  have hrate := Decimal.toText_eq_of_toRat_eq h.taxRate
  rw [refusal?_eq, refusal?_eq, h.salary, h.taxRate, h.daysWorked]
  split
  · simp [Refusal.kind, Refusal.message, hsalary]
  · split
    · simp [Refusal.kind, Refusal.message, hrate]
    · split <;> simp

/-- The amounts have the same values. -/
private theorem amounts {bonus bonus' : Decimal} {st st' : Settlement} (ha : Run.amounts e = .ok (bonus, st))
    (ha' : Run.amounts e' = .ok (bonus', st')) : bonus.toRat = bonus'.toRat ∧ st.SameValues st' := by
  obtain ⟨hb, tax, ht, rfl⟩ := Run.amounts_eq_ok ha
  obtain ⟨hb', tax', ht', rfl⟩ := Run.amounts_eq_ok ha'
  have hbonus := h.toRat_bonus hb hb'
  refine ⟨hbonus, Settlement.of_congr h.salary hbonus h.taxRate ?_ ?_⟩
  · rw [Settlement.of_eq, ht]
    rfl
  · rw [Settlement.of_eq, ht']
    rfl

end Respelled

end Employee

/-! ### Runs -/

/-- Reports that differ in the spelling of their amounts: each amount is printed alike, and all else is equal. -/
structure Report.Respelled (r r' : Report) : Prop where
  bonus : r.bonus.toText = r'.bonus.toText
  finalSalary : r.settlement.finalSalary.toText = r'.settlement.finalSalary.toText
  tax : r.settlement.tax.toText = r'.settlement.tax.toText
  netSalary : r.settlement.netSalary.toText = r'.settlement.netSalary.toText
  productivity : r.productivity.toText = r'.productivity.toText
  averageDaily : r.averageDaily.toText = r'.averageDaily.toText
  others : r' = { r with
    bonus := r'.bonus, settlement := r'.settlement, productivity := r'.productivity, averageDaily := r'.averageDaily }

/-- Results that differ in the spelling of their amounts only. -/
inductive Run.SameResult : Except RunError Report → Except RunError Report → Prop where
  | report {r r' : Report} (h : r.Respelled r') : SameResult (.ok r) (.ok r')
  | refused {refusal refusal' : Refusal} (hkind : refusal.kind = refusal'.kind)
      (hmessage : refusal.message = refusal'.message) :
      SameResult (.error (.refused refusal)) (.error (.refused refusal'))
  | error (e : RunError) : SameResult (.error e) (.error e)

theorem Report.lines_congr {name : Text} {net net' average average' : Decimal} (hnet : net.toRat = net'.toRat)
    (haverage : average.toRat = average'.toRat) : lines name net average = lines name net' average' := by
  have hnetText := Decimal.toText_eq_of_toRat_eq hnet
  have haverageText := Decimal.toText_eq_of_toRat_eq haverage
  simp only [lines, openingLines, closingLines, Tier.of_congr hnet, hnetText, haverageText]

namespace Run

private theorem report_respelled {e e' : Employee} (h : e.Respelled e') {bonus bonus' average average' : Decimal}
    {st st' : Settlement} (hbonus : bonus.toRat = bonus'.toRat) (hst : st.SameValues st')
    (haverage : average.toRat = average'.toRat) (id : RunId) (lineCount : Nat) :
    (report id e bonus st average lineCount).Respelled (report id e' bonus' st' average' lineCount) where
  bonus := Decimal.toText_eq_of_toRat_eq hbonus
  finalSalary := Decimal.toText_eq_of_toRat_eq hst.finalSalary
  tax := Decimal.toText_eq_of_toRat_eq hst.tax
  netSalary := Decimal.toText_eq_of_toRat_eq hst.netSalary
  productivity := congrArg Decimal.toText h.productivity.symm
  averageDaily := Decimal.toText_eq_of_toRat_eq haverage
  others := by
    have hactive : e'.active = e.active := by rw [h.others]
    simp only [report, h.name, h.age, h.daysWorked, hactive, Tier.of_congr hst.netSalary, Decimal.isPositive_iff,
      hbonus]

/-- The log does not tell one spelling from the other. -/
private theorem SameResult.eventsFor {x x' : Except RunError Report} (h : SameResult x x') (id : RunId)
    (name : Text) :
    Run.eventsFor id name x = Run.eventsFor id name x' := by
  cases h with
  | report h =>
    rename_i r r'
    have hhas : r'.hasBonus = r.hasBonus := by rw [h.others]
    have hemployed : r'.isEmployed = r.isEmployed := by rw [h.others]
    have hsum : r'.yearSum = r.yearSum := by rw [h.others]
    have htier : r'.tier = r.tier := by rw [h.others]
    simp only [Run.eventsFor, h.bonus, h.productivity, hhas, hemployed, hsum, htier]
  | refused hkind hmessage => rfl
  | error e => rfl

/-- A run that has printed its lines ends in the same way in another spelling. -/
private theorem conclude_respelled {e e' : Employee} (h : e.Respelled e') {bonus bonus' average average' : Decimal}
    {st st' : Settlement} (hbonus : bonus.toRat = bonus'.toRat) (hst : st.SameValues st')
    (haverage : average.toRat = average'.toRat) (id : RunId) (p : Printout) :
    SameResult (conclude id e bonus st average p).result (conclude id e' bonus' st' average' p).result := by
  unfold conclude
  cases p.failure with
  | some failure => exact .error _
  | none => exact .report (report_respelled h hbonus hst haverage id p.lines)

/-- A run does not depend on the spelling of the amounts, unless one of them overflows. -/
private theorem settle_congr {e e' : Employee} (h : e.Respelled e') (id : RunId) (s : Sink)
    (hdefined : ∀ cause, (settle id e s).result ≠ .error (.overflow cause))
    (hdefined' : ∀ cause, (settle id e' s).result ≠ .error (.overflow cause)) :
    (settle id e s).out = (settle id e' s).out ∧ (settle id e s).sink = (settle id e' s).sink ∧
      SameResult (settle id e s).result (settle id e' s).result := by
  obtain ⟨hkind, hmessage⟩ := h.refusal
  rcases hrefusal : e.refusal? with _ | refusal <;> rcases hrefusal' : e'.refusal? with _ | refusal' <;>
    simp only [hrefusal, hrefusal', Option.map_some, Option.map_none, Option.some.injEq, reduceCtorEq]
      at hkind hmessage
  · obtain ⟨bonus, st, average, ha, hd, hrun⟩ := settle_of_defined hrefusal id s hdefined
    obtain ⟨bonus', st', average', ha', hd', hrun'⟩ := settle_of_defined hrefusal' id s hdefined'
    obtain ⟨hbonus, hst⟩ := h.amounts ha ha'
    rw [h.daysWorked] at hd'
    have haverage := toRat_averageDaily_congr hst.netSalary hd hd'
    rw [hrun, hrun', h.name, Report.lines_congr hst.netSalary haverage]
    refine ⟨?_, ?_, conclude_respelled h hbonus hst haverage id _⟩
    · rw [out_conclude, out_conclude]
    · rw [sink_conclude, sink_conclude]
  · simp only [settle, hrefusal, hrefusal']
    exact ⟨trivial, trivial, .refused hkind hmessage⟩

end Run

/-! ### Sessions -/

/-- Nothing depends on the spelling of an amount: neither the pay rules, nor the refusal of an employee, nor a run on
any session, as long as no amount overflows. -/
theorem Session.settle_respelled {e e' : Employee} (h : e.Respelled e') :
    (e.refusal?.map Refusal.kind = e'.refusal?.map Refusal.kind ∧
      e.refusal?.map Refusal.message = e'.refusal?.map Refusal.message) ∧
    (∀ s : Session,
      (∀ cause, (Run.settle s.ids.draw.1 e s.sink).result ≠ .error (.overflow cause)) →
      (∀ cause, (Run.settle s.ids.draw.1 e' s.sink).result ≠ .error (.overflow cause)) →
      ∃ after result result' out log, s.settle e = (after, .ran result out log) ∧
        s.settle e' = (after, .ran result' out log) ∧ Run.SameResult result result') ∧
    (∀ bonus bonus', e.bonus = .ok bonus → e'.bonus = .ok bonus' → bonus.toText = bonus'.toText) ∧
    (∀ salary salary' bonus bonus' rate rate' : Decimal, ∀ st st' : Settlement,
      salary.toRat = salary'.toRat → bonus.toRat = bonus'.toRat → rate.toRat = rate'.toRat →
      Settlement.of salary bonus rate = .ok st → Settlement.of salary' bonus' rate' = .ok st' →
      st.finalSalary.toText = st'.finalSalary.toText ∧ st.tax.toText = st'.tax.toText ∧
        st.netSalary.toText = st'.netSalary.toText) ∧
    (∀ (net net' : Decimal) (days : Int64), net.toRat = net'.toRat →
      (∀ cause, averageDaily net days ≠ .error (.overflow cause)) →
      (∀ cause, averageDaily net' days ≠ .error (.overflow cause)) →
      (averageDaily net days).map Decimal.toText = (averageDaily net' days).map Decimal.toText) ∧
    (∀ net net' : Decimal, net.toRat = net'.toRat → (Tier.of net).label = (Tier.of net').label) := by
  refine ⟨h.refusal, ?_, ?_, ?_, ?_, ?_⟩
  · intro s hdefined hdefined'
    obtain ⟨hout, hsink, hresult⟩ := Run.settle_congr h s.ids.draw.1 s.sink hdefined hdefined'
    have hevents := hresult.eventsFor s.ids.draw.1 e.name
    have hids : s.idsAfter e' = s.idsAfter e := by
      have hsome := congrArg Option.isSome h.refusal.1
      rw [Option.isSome_map, Option.isSome_map] at hsome
      rw [idsAfter, idsAfter, hsome]
    rw [← Run.events_settle, ← h.name, ← Run.events_settle] at hevents
    refine ⟨_, _, _, _, _, rfl, ?_, hresult⟩
    rw [settle, hout, hsink, hevents, hids]
  · intro bonus bonus' hb hb'
    exact Decimal.toText_eq_of_toRat_eq (h.toRat_bonus hb hb')
  · intro salary salary' bonus bonus' rate rate' st st' hsalary hbonus hrate hst hst'
    obtain ⟨hfinal, htax, hnet⟩ := Settlement.of_congr hsalary hbonus hrate hst hst'
    exact ⟨Decimal.toText_eq_of_toRat_eq hfinal, Decimal.toText_eq_of_toRat_eq htax,
      Decimal.toText_eq_of_toRat_eq hnet⟩
  · intro net net' days hnet hdefined hdefined'
    by_cases hdays : days ≤ 0
    · rw [averageDaily, averageDaily, if_pos hdays, if_pos hdays]
    · obtain ⟨average, hd⟩ := exists_averageDaily hdays hdefined
      obtain ⟨average', hd'⟩ := exists_averageDaily hdays hdefined'
      have htext := Decimal.toText_eq_of_toRat_eq (toRat_averageDaily_congr hnet hd hd')
      rw [hd, hd']
      exact congrArg Except.ok htext
  · intro net net' hnet
    rw [Tier.of_congr hnet]

/-- The standard employee with more places in both amounts. -/
theorem Session.settle_respelled_standard :
    let e := { Employee.standard with
      salary := { coefficient := 50000750, exponent := -3 }, taxRate := { coefficient := 1500, exponent := -4 } }
    let s : Session := { sink := {}, logger := none, ids := { byte := UInt8.ofNat }, now := ⟨2024, 2, 29, 15, 4, 5⟩ }
    Employee.standard.Respelled e ∧ Employee.standard ≠ e ∧
      ∃ after result result' out log, s.settle .standard = (after, .ran result out log) ∧
        s.settle e = (after, .ran result' out log) ∧ Run.SameResult result result' := by
  intro e s
  have hsalary : Employee.standard.salary.toRat = e.salary.toRat := by
    norm_num [Decimal.toRat, Employee.standard, Decimal.cents, e]
  have hrate : Employee.standard.taxRate.toRat = e.taxRate.toRat := by
    norm_num [Decimal.toRat, Employee.standard, Decimal.cents, e]
  have hrespelled : Employee.standard.Respelled e := ⟨hsalary, hrate, rfl⟩
  have hok : (Run.settle s.ids.draw.1 .standard s.sink).result.isOk = true := by decide +kernel
  have hok' : (Run.settle s.ids.draw.1 e s.sink).result.isOk = true := by decide +kernel
  refine ⟨hrespelled, by decide, (settle_respelled hrespelled).2.1 s ?_ ?_⟩
  · intro cause hresult
    rw [hresult] at hok
    cases hok
  · intro cause hresult
    rw [hresult] at hok'
    cases hok'

end PayRun
