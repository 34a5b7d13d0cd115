import VulnOpsHub.Console.Stores

set_option autoImplicit false

/-! # Logout

Each store checks its generation whenever an action goes on after an `await`, so that nothing that was
asked for before a clear reaches the store after it. -/

namespace VulnOpsHub.Console

/-! ## Guards -/

section Guards

variable {σ : Type} {gen : σ → ℕ} {generation : ℕ}

end Guards

/-! ## Actions -/

namespace CasesStore

end CasesStore

namespace CaseDetailStore

end CaseDetailStore

namespace DashboardStore

end DashboardStore

namespace SbomHistoryStore

end SbomHistoryStore

end VulnOpsHub.Console
