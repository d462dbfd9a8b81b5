import TransHub.Charters.Quotes
import TransHub.Waybills.Quotes

/-!
# Quotes that can be paid as announced

* `quote_payable_iff`: the accepted quotes, of charters and of waybills, that can.
* `quote_not_payable`: one of a tenth of a kobo, and one of half a kobo too many.
-/

namespace TransHub

/-- **When a quote is payable as announced.**  Take a price that `sendQuoteSchema` accepts, for
a charter and for a waybill.  In every state of every run in which the quotes that are sent
are of that price, the stored amount is positive, the guards of the payment pass and what
Paystack is asked for is what has been announced, exactly when the price is a whole number of
kobo. -/
theorem quote_payable_iff (charterBody charterQuote : CharterQuote)
    (waybillBody waybillQuote : WaybillQuote)
    (hcharter : Charters.sendQuoteSchema charterBody = .ok charterQuote)
    (hwaybill : Waybills.sendQuoteSchema waybillBody = .ok waybillQuote) :
    ((∀ charterId c,
        (charters charterId).ReachableBy (CharterQuotes charterQuote.quotedPrice) c →
          CharterPayable charterQuote.quotedPrice c) ↔ WholeKobo charterQuote.quotedPrice) ∧
    ((∀ waybillId c,
        (waybills waybillId).ReachableBy (WaybillQuotes waybillQuote.quoteAmount) c →
          WaybillPayable waybillQuote.quoteAmount c) ↔ WholeKobo waybillQuote.quoteAmount) :=
  ⟨charterPayable_iff hcharter, waybillPayable_iff hwaybill⟩

theorem quote_payable_iff_bus :
    WholeKobo 2500 ∧ ∀ c, (charters 1).ReachableBy (CharterQuotes 2500) c →
      CharterPayable 2500 c := by
  have hwhole : WholeKobo 2500 := ⟨250000, by norm_num⟩
  have hcharter : Charters.sendQuoteSchema busQuote = .ok busQuote := by decide +kernel
  have hwaybill : Waybills.sendQuoteSchema parcelQuote = .ok parcelQuote := by decide +kernel
  exact ⟨hwhole,
    (quote_payable_iff busQuote busQuote parcelQuote parcelQuote hcharter hwaybill).1.mpr hwhole 1⟩

/-! ## Quotes that can not -/

/-- A quote of a tenth of a kobo. -/
def busTooCheap : CharterQuote := { busQuote with quotedPrice := 1 / 1000 }

/-- A quote of half a kobo over ten naira. -/
def busHalfKobo : CharterQuote := { busQuote with quotedPrice := 10005 / 1000 }

def parcelTooCheap : WaybillQuote := { parcelQuote with quoteAmount := 1 / 1000 }

/-- **Accepted quotes that can not be paid as announced.**  A tenth of a kobo is accepted,
announced and stored as zero; the charter is accepted and its payment refused as
`INVALID_PRICE`, the waybill's as `NO_QUOTE`.  And 10.005 naira are announced where 1001 kobo
are charged. -/
theorem quote_not_payable :
    Charters.sendQuoteSchema busTooCheap = .ok busTooCheap ∧
      ((charters 1).run charterStart (quotedCharter busTooCheap ++ [.run 2 charterPlain])).map
        (fun c => (c.shared.row.map Charter.quotedPrice, c.procs[2]?.map CharterProc.pc)) =
          some (some (some 0), some (.done (.thrown
            (.app (.conflictError "Charter quoted price is invalid" "INVALID_PRICE"))))) ∧
      Waybills.sendQuoteSchema parcelTooCheap = .ok parcelTooCheap ∧
      ((waybills 1).run waybillStart (quotedWaybill parcelTooCheap ++ [.run 1 waybillPlain])).map
        (fun c => (c.shared.row.map Waybill.fee, c.procs[1]?.map WaybillProc.pc)) =
          some (some 0, some (.done (.thrown
            (.app (.conflictError "Waybill has no quoted fee — contact admin" "NO_QUOTE"))))) ∧
      Charters.sendQuoteSchema busHalfKobo = .ok busHalfKobo ∧
      ((charters 1).run charterStart (quotedCharter busHalfKobo)).map
        (fun c => (c.shared.row.map CharterProc.amountKobo,
          c.shared.emitted.any fun e => match e with
            | .quoted _ quotedPrice => quotedPrice = 10005 / 1000
            | _ => false)) = some (some 1001, true) :=
  ⟨by decide +kernel, by decide +kernel, by decide +kernel, by decide +kernel, by decide +kernel,
    by decide +kernel⟩

end TransHub
