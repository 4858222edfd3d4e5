import OnlineStore.Answers
import OnlineStore.Bookkeeping
import OnlineStore.Capacity
import OnlineStore.Charges
import OnlineStore.Client
import OnlineStore.Commutation
import OnlineStore.Consistency
import OnlineStore.Deadlock
import OnlineStore.Decoders
import OnlineStore.Demos
import OnlineStore.Discipline
import OnlineStore.Draining
import OnlineStore.Identifiers
import OnlineStore.Layers
import OnlineStore.Loaders
import OnlineStore.Locking
import OnlineStore.LockingModel
import OnlineStore.Market
import OnlineStore.MarketTables
import OnlineStore.OrderDecoding
import OnlineStore.OrderDetails
import OnlineStore.Printing
import OnlineStore.ReadSections
import OnlineStore.Registration
import OnlineStore.RelayProgress
import OnlineStore.RelayedMarket
import OnlineStore.Searches
import OnlineStore.Serializability
import OnlineStore.Session
import OnlineStore.Stock
import OnlineStore.Views
import OnlineStore.Wire
