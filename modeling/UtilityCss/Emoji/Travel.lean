/-!
# Travel and transport

Names of emoji from the block of transport and map symbols.
Every word is a name with the code points of its characters behind it.
-/

namespace UtilityCss.Emoji

def travel : String :=
  "
    rocket/1F680 helicopter/1F681 locomotive/1F682 steam_locomotive/1F682 railway_car/1F683
    bullettrain_side/1F684 high-speed_train/1F684 bullet_train/1F685 bullettrain_front/1F685
    train2/1F686 metro/1F687 light_rail/1F688 station/1F689 tram/1F68A train/1F68B tram_car/1F68B
    bus/1F68C oncoming_bus/1F68D trolleybus/1F68E bus_stop/1F68F busstop/1F68F minibus/1F690
    ambulance/1F691 fire_engine/1F692 police_car/1F693 oncoming_police_car/1F694 taxi/1F695
    oncoming_taxi/1F696 automobile/1F697 car/1F697 red_car/1F697 oncoming_automobile/1F698
    blue_car/1F699 sport_utility_vehicle/1F699 delivery_truck/1F69A truck/1F69A
    articulated_lorry/1F69B tractor/1F69C monorail/1F69D mountain_railway/1F69E
    suspension_railway/1F69F mountain_cableway/1F6A0 aerial_tramway/1F6A1 ship/1F6A2 rowboat/1F6A3
    speedboat/1F6A4 horizontal_traffic_light/1F6A5 traffic_light/1F6A5
    vertical_traffic_light/1F6A6 construction/1F6A7 police_car_light/1F6A8 rotating_light/1F6A8
    triangular_flag/1F6A9 triangular_flag_on_post/1F6A9 door/1F6AA no_entry_sign/1F6AB
    prohibited/1F6AB cigarette/1F6AC smoking/1F6AC no_smoking/1F6AD litter_in_bin_sign/1F6AE
    put_litter_in_its_place/1F6AE do_not_litter/1F6AF no_littering/1F6AF potable_water/1F6B0
    non-potable_water/1F6B1 non__potable_water/1F6B1 bicycle/1F6B2 bike/1F6B2 no_bicycles/1F6B3
    bicyclist/1F6B4 mountain_bicyclist/1F6B5 walking/1F6B6 no_pedestrians/1F6B7
    children_crossing/1F6B8 mens/1F6B9 men’s_room/1F6B9 womens/1F6BA women’s_room/1F6BA
    restroom/1F6BB baby_symbol/1F6BC toilet/1F6BD water_closet/1F6BE wc/1F6BE shower/1F6BF
    bath/1F6C0 bathtub/1F6C1 passport_control/1F6C2 customs/1F6C3 baggage_claim/1F6C4
    left_luggage/1F6C5 couch_and_lamp/1F6CB sleeping_accommodation/1F6CC shopping_bags/1F6CD
    bellhop_bell/1F6CE bed/1F6CF place_of_worship/1F6D0 stop_sign/1F6D1 shopping_cart/1F6D2
    hindu_temple/1F6D5 hammer_and_wrench/1F6E0 shield/1F6E1 oil_drum/1F6E2 motorway/1F6E3
    railway_track/1F6E4 motor_boat/1F6E5 small_airplane/1F6E9 airplane_departure/1F6EB
    airplane_arrival/1F6EC airplane_arriving/1F6EC passenger_ship/1F6F3 kick_scooter/1F6F4
    motor_scooter/1F6F5 canoe/1F6F6 sled/1F6F7 flying_saucer/1F6F8 skateboard/1F6F9
    auto_rickshaw/1F6FA orange_circle/1F7E0 yellow_circle/1F7E1 green_circle/1F7E2
    purple_circle/1F7E3 brown_circle/1F7E4 red_square/1F7E5 blue_square/1F7E6 orange_square/1F7E7
    yellow_square/1F7E8 green_square/1F7E9 purple_square/1F7EA brown_square/1F7EB
  "

end UtilityCss.Emoji
