import AirQuality.Backup
import AirQuality.Json.Search
import AirQuality.Outage
import AirQuality.Startup
import AirQuality.Store.History
import AirQuality.Sync.Interleaving
import AirQuality.TimeSeries.Pivot
import AirQuality.TimeSeries.Store
import AirQuality.Web.Answer
import AirQuality.Store.Watched
import AirQuality.Proofs.Sync.Course
import AirQuality.Proofs.Store.History
import AirQuality.Proofs.Sync.Barrier
import AirQuality.Proofs.Sync.Order
import AirQuality.Proofs.Sync.Confluence
import AirQuality.Proofs.Sync.Meaning
import AirQuality.Proofs.Sync.Exclusion
import AirQuality.Proofs.Feed.Containment
import AirQuality.Proofs.Sync.Window
import AirQuality.Proofs.Sync.Repeated
import AirQuality.Proofs.Sync.Ending
import AirQuality.Proofs.Order.Greatest
import AirQuality.Proofs.Order.Stable
import AirQuality.Proofs.Store.Ranges
import AirQuality.Proofs.Store.Changes
import AirQuality.Proofs.Ranking.Windows
import AirQuality.Proofs.Ranking.Agreement
import AirQuality.Proofs.Time.Calendar
import AirQuality.Proofs.Time.Digits
import AirQuality.Proofs.Time.IsoText
import AirQuality.Proofs.Time.ZuluText
import AirQuality.Proofs.TimeSeries.Range
import AirQuality.Proofs.Number.Numeral
import AirQuality.Proofs.TimeSeries.RoundTrip
import AirQuality.Proofs.Number.Bits
import AirQuality.Proofs.Number.Rounding
import AirQuality.Proofs.Number.Shortest
import AirQuality.Proofs.Json.Numerals
import AirQuality.Proofs.Json.RoundTrip
import AirQuality.Proofs.Record.Measurements
import AirQuality.Proofs.Backup.RoundTrip
import AirQuality.Proofs.Backup.Reload
import AirQuality.Proofs.Sync.Offsets
import AirQuality.Proofs.TimeSeries.Agreement
import AirQuality.Proofs.Number.Value
import AirQuality.Proofs.Feed.Readings
import AirQuality.Proofs.Ranking.Dense
import AirQuality.Proofs.Ranking.Content
import AirQuality.Proofs.Feed.LatestValues
import AirQuality.Proofs.Feed.Sensors
import AirQuality.Proofs.Backup.AllOrNothing
import AirQuality.Proofs.Time.Days
import AirQuality.Proofs.Time.Bounds
import AirQuality.Proofs.Time.StampText
import AirQuality.Proofs.Time.DayText
import AirQuality.Proofs.Store.Days
import AirQuality.Proofs.Web.Measurements
import AirQuality.Proofs.Statistics.Content
import AirQuality.Proofs.Time.FeedText
import AirQuality.Proofs.Number.Exact
import AirQuality.Proofs.Enquiry.Nearest
import AirQuality.Proofs.Number.Narrowing
import AirQuality.Proofs.Number.Arithmetic
import AirQuality.Proofs.Number.Bounds
import AirQuality.Proofs.Enquiry.Distances
import AirQuality.Proofs.Enquiry.Coordinates
import AirQuality.Proofs.Json.DocumentOrder
import AirQuality.Proofs.Store.Recency
import AirQuality.Proofs.Enquiry.Windows
