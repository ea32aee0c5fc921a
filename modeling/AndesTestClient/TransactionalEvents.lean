import AndesTestClient.TransactionalRun

namespace AndesTestClient

open Imperative

namespace PublisherThread

variable {t : PublisherThread} {fuel : ℕ}

end PublisherThread

end AndesTestClient
